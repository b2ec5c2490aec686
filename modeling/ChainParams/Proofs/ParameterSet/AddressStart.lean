import ChainParams.Known
import ChainParams.Proofs.ParameterSet.Validate

/-!
# What the start of a bech32 address looks like

The rule for human-readable parts is a rule about bytes.  A text that obeys it is
made of ASCII characters, and then its bytes are its characters, so the rule can
be read as one about characters (`isHumanReadablePart_iff`).  Making the capitals
small keeps a character printable, and so the start of an address, which is the
part in small letters and the separator, is again a printable text
(`isAddressStart_asciiLowercase`).  Whatever the part holds, separators among it,
the start gives the part back up to the case of its letters
(`ParameterSet.bech32Start_eq_iff`).
-/

namespace ChainParams

/-! ## Human-readable parts -/

theorem isUpper_iff (c : Char) : c.isUpper = true ↔ 65 ≤ c.toNat ∧ c.toNat ≤ 90 := by
  change decide ('A'.val ≤ c.val ∧ c.val ≤ 'Z'.val) = true ↔ _
  rw [decide_eq_true_iff, UInt32.le_iff_toNat_le, UInt32.le_iff_toNat_le]
  rfl

theorem isLower_iff (c : Char) : c.isLower = true ↔ 97 ≤ c.toNat ∧ c.toNat ≤ 122 := by
  change (decide ('a'.val ≤ c.val) && decide (c.val ≤ 'z'.val)) = true ↔ _
  rw [Bool.and_eq_true, decide_eq_true_iff, decide_eq_true_iff, UInt32.le_iff_toNat_le,
    UInt32.le_iff_toNat_le]
  rfl

/-- The rule as it is checked, on bytes. -/
theorem isHumanReadablePart_iff_utf8 (text : String) :
    isHumanReadablePart text = true ↔
      (1 ≤ (utf8 text).length ∧ (utf8 text).length ≤ 83) ∧
      (∀ b ∈ utf8 text, 33 ≤ b.toNat ∧ b.toNat ≤ 126) ∧
      ¬ ((∃ b ∈ utf8 text, 97 ≤ b.toNat ∧ b.toNat ≤ 122) ∧
        ∃ b ∈ utf8 text, 65 ≤ b.toNat ∧ b.toNat ≤ 90) := by
  have hlength : (!(utf8 text).isEmpty) = true ↔ 1 ≤ (utf8 text).length := by
    rw [Bool.not_eq_true', List.isEmpty_eq_false_iff, ← List.length_pos_iff]
    rfl
  simp only [isHumanReadablePart, Bool.and_eq_true, hlength, Bool.not_eq_true', List.all_eq_true,
    List.any_eq_true, decide_eq_true_eq, ← Bool.not_eq_true, and_assoc]
  exact Iff.rfl

/-- A human-readable part is a text of 1 to 83 printable ASCII characters without
both small and capital letters. -/
theorem isHumanReadablePart_iff (text : String) :
    isHumanReadablePart text = true ↔
      (1 ≤ text.length ∧ text.length ≤ 83) ∧
      (∀ c ∈ text.toList, 33 ≤ c.toNat ∧ c.toNat ≤ 126) ∧
      ¬ ((∃ c ∈ text.toList, c.isLower = true) ∧ ∃ c ∈ text.toList, c.isUpper = true) := by
  have hbytes (hascii : Text.IsAscii text) := by
    have hlength : (utf8 text).length = text.length := by
      rw [utf8_of_isAscii hascii, List.length_map, String.length_toList]
    have hrule := isHumanReadablePart_iff_utf8 text
    rw [hlength, forall_mem_utf8_iff hascii fun n => 33 ≤ n ∧ n ≤ 126,
      exists_mem_utf8_iff hascii fun n => 97 ≤ n ∧ n ≤ 122,
      exists_mem_utf8_iff hascii fun n => 65 ≤ n ∧ n ≤ 90] at hrule
    exact hrule
  simp only [isLower_iff, isUpper_iff]
  constructor
  · intro h
    exact (hbytes (isAscii_of_isHumanReadablePart h)).mp h
  · intro h
    have hascii : Text.IsAscii text := fun c hc => Nat.lt_of_le_of_lt (h.2.1 c hc).2 (by decide)
    exact (hbytes hascii).mpr h

/-! ## Starts of addresses -/

/-- Whether a text has the form of the start of an address: 2 to 84 printable ASCII
characters without capitals, the last of which is the separator. -/
structure IsAddressStart (start : String) : Prop where
  length : 2 ≤ start.length ∧ start.length ≤ 84
  printable : ∀ c ∈ start.toList, 33 ≤ c.toNat ∧ c.toNat ≤ 126
  small : ∀ c ∈ start.toList, c.isUpper = false
  separator : start.toList.getLast? = some '1'

theorem printable_toLower {c : Char} (h : 33 ≤ c.toNat ∧ c.toNat ≤ 126) :
    33 ≤ c.toLower.toNat ∧ c.toLower.toNat ≤ 126 := by
  rcases Text.toLower_cases c with ⟨hfirst, hlast, hmoved⟩ | ⟨-, hsame⟩
  · omega
  · rwa [hsame]

theorem isUpper_toLower (c : Char) : c.toLower.isUpper = false := by
  rcases Text.toLower_cases c with ⟨hfirst, hlast, hmoved⟩ | ⟨hupper, hsame⟩
  · rw [← Bool.not_eq_true, isUpper_iff]
    omega
  · rwa [hsame]

theorem toList_asciiLowercase (text : String) :
    (Text.asciiLowercase text).toList = text.toList.map Char.toLower :=
  String.toList_ofList

theorem toList_asciiLowercase_append_separator (part : String) :
    (Text.asciiLowercase (part ++ "1")).toList = part.toList.map Char.toLower ++ ['1'] := by
  rw [toList_asciiLowercase, String.toList_append, List.map_append]
  rfl

theorem isAddressStart_asciiLowercase {part : String} (h : isHumanReadablePart part = true) :
    IsAddressStart (Text.asciiLowercase (part ++ "1")) := by
  obtain ⟨hlength, hprintable, -⟩ := (isHumanReadablePart_iff part).mp h
  have htoList := toList_asciiLowercase_append_separator part
  refine ⟨?_, ?_, ?_, ?_⟩
  · rw [← String.length_toList, htoList, List.length_append, List.length_map, String.length_toList,
      List.length_singleton]
    omega
  · rw [htoList, List.forall_mem_append, List.forall_mem_map, List.forall_mem_singleton]
    exact ⟨fun c hc => printable_toLower (hprintable c hc), by decide⟩
  · rw [htoList, List.forall_mem_append, List.forall_mem_map, List.forall_mem_singleton]
    exact ⟨fun c _ => isUpper_toLower c, by decide⟩
  · rw [htoList, List.getLast?_concat]

/-- A human-readable part in small letters is one as well. -/
theorem isHumanReadablePart_asciiLowercase {part : String} (h : isHumanReadablePart part = true) :
    isHumanReadablePart (Text.asciiLowercase part) = true := by
  obtain ⟨hlength, hprintable, -⟩ := (isHumanReadablePart_iff part).mp h
  have htoList := toList_asciiLowercase part
  rw [isHumanReadablePart_iff]
  refine ⟨?_, ?_, ?_⟩
  · rwa [← String.length_toList, htoList, List.length_map, String.length_toList]
  · rw [htoList, List.forall_mem_map]
    exact fun c hc => printable_toLower (hprintable c hc)
  · rw [htoList]
    rintro ⟨-, c, hc, hupper⟩
    obtain ⟨d, -, rfl⟩ := List.mem_map.mp hc
    rw [isUpper_toLower] at hupper
    cases hupper

namespace ParameterSet

theorem bech32Start_eq {p : ParameterSet} (h : isHumanReadablePart p.humanReadablePart = true) :
    p.bech32Start = Text.asciiLowercase (p.humanReadablePart ++ "1") := by
  rw [bech32Start, Text.lowercase_of_isAscii (isAscii_of_isHumanReadablePart h),
    Text.asciiLowercase_append]
  rfl

/-- Addresses start alike exactly if the human-readable parts are equal up to the case of their
letters. -/
theorem bech32Start_eq_iff {p q : ParameterSet}
    (hp : isHumanReadablePart p.humanReadablePart = true)
    (hq : isHumanReadablePart q.humanReadablePart = true) :
    p.bech32Start = q.bech32Start ↔
      Text.asciiLowercase p.humanReadablePart = Text.asciiLowercase q.humanReadablePart := by
  rw [bech32Start_eq hp, bech32Start_eq hq, ← String.toList_inj,
    toList_asciiLowercase_append_separator, toList_asciiLowercase_append_separator,
    List.append_cancel_right_eq, ← toList_asciiLowercase, ← toList_asciiLowercase,
    String.toList_inj]

/-- The rule for human-readable parts, as one about characters, and what the start of an address
is for a part that obeys it. -/
theorem bech32Start_exact :
    (∀ text : String, isHumanReadablePart text = true ↔
      (1 ≤ text.length ∧ text.length ≤ 83) ∧
      (∀ c ∈ text.toList, 0x21 ≤ c.toNat ∧ c.toNat ≤ 0x7e) ∧
      ¬ ((∃ c ∈ text.toList, c.isLower = true) ∧ ∃ c ∈ text.toList, c.isUpper = true)) ∧
    (∀ p : ParameterSet, isHumanReadablePart p.humanReadablePart = true →
      p.bech32Start.toList = p.humanReadablePart.toList.map Char.toLower ++ ['1'] ∧
      Text.lowercase p.humanReadablePart = Text.asciiLowercase p.humanReadablePart ∧
      isHumanReadablePart (Text.lowercase p.humanReadablePart) = true) ∧
    ∀ p q : ParameterSet, isHumanReadablePart p.humanReadablePart = true →
      isHumanReadablePart q.humanReadablePart = true →
        (p.bech32Start = q.bech32Start ↔
          Text.asciiLowercase p.humanReadablePart = Text.asciiLowercase q.humanReadablePart) := by
  refine ⟨isHumanReadablePart_iff, ?_, fun _ _ => bech32Start_eq_iff⟩
  intro p hp
  have hsmall := Text.lowercase_of_isAscii (isAscii_of_isHumanReadablePart hp)
  refine ⟨?_, hsmall, ?_⟩
  · rw [bech32Start_eq hp, toList_asciiLowercase_append_separator]
  · rw [hsmall]
    exact isHumanReadablePart_asciiLowercase hp

/-- A network whose addresses start with two separators. -/
def separatorNetwork : ParameterSet := { regtest with humanReadablePart := "A1" }

/-- A human-readable part that ends in a separator, read from capitals and from small letters,
is not taken for the part before that separator. -/
theorem separatorNetwork_bech32Start_exact :
    separatorNetwork.bech32Start.toList = ['a', '1', '1'] ∧
    { regtest with humanReadablePart := "a1" }.bech32Start = separatorNetwork.bech32Start ∧
    { regtest with humanReadablePart := "a" }.bech32Start ≠ separatorNetwork.bech32Start := by
  have hcapital : isHumanReadablePart separatorNetwork.humanReadablePart = true := by
    decide +kernel
  have hsmall : isHumanReadablePart "a1" = true := by decide +kernel
  have hletter : isHumanReadablePart "a" = true := by decide +kernel
  refine ⟨?_, ?_, ?_⟩
  · exact (bech32Start_exact.2.1 separatorNetwork hcapital).1
  · exact (bech32Start_exact.2.2 { regtest with humanReadablePart := "a1" } separatorNetwork
      hsmall hcapital).mpr (by decide +kernel)
  · intro hsame
    exact absurd ((bech32Start_exact.2.2 { regtest with humanReadablePart := "a" }
      separatorNetwork hletter hcapital).mp hsame) (by decide +kernel)

end ParameterSet

end ChainParams
