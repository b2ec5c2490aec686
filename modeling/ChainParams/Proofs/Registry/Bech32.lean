import ChainParams.Registry.Identify
import ChainParams.Proofs.ParameterSet.AddressStart
import ChainParams.Proofs.Registry.Consistent

/-!
# Looking up the starts of bech32 addresses

Human-readable parts are ASCII texts, and the start of the addresses of a network
is one up to the case of its letters.  A lookup goes by the lowercase of the
whole of Unicode instead.  The two differ on one character only: the Kelvin sign
is taken for a k.
-/

namespace ChainParams.Registry

/-- The start of an address is the human-readable part and the separator in small
letters. -/
theorem bech32Start_of_valid {p : ParameterSet} (h : p.validate = .ok ()) :
    Text.IsAscii (p.humanReadablePart ++ "1") ∧
      p.bech32Start = Text.asciiLowercase (p.humanReadablePart ++ "1") := by
  have hvalid := ParameterSet.isHumanReadablePart_of_validate h
  have hpart := isAscii_of_isHumanReadablePart hvalid
  refine ⟨?_, ParameterSet.bech32Start_eq hvalid⟩
  intro c hc
  rw [String.toList_append, List.mem_append] at hc
  rcases hc with hc | hc
  · exact hpart c hc
  · obtain rfl : c = '1' := by simpa using hc
    decide

theorem Consistent.contains_bech32Starts_iff {r : Registry} (h : r.Consistent) (start : String) :
    r.indices.bech32Starts.contains start = true ↔ ∃ n ∈ r.networks, n.bech32Start = start := by
  rw [h.indices_eq]
  exact Indices.contains_ofNetworks (·.bech32Starts) (·.bech32Start) (fun _ _ => ()) rfl
    (fun _ _ _ => rfl) r.networks start

/-- Whether a text is made of ASCII characters and is the human-readable part of a
network with the separator, up to the case of its letters. -/
def SpellsBech32Start (r : Registry) (text : String) : Prop :=
  Text.IsAscii text ∧
    ∃ n ∈ r.networks, Text.asciiLowercase text = Text.asciiLowercase (n.humanReadablePart ++ "1")

theorem Consistent.isBech32Start_iff {r : Registry} (h : r.Consistent) (text : String) :
    r.isBech32Start text = true ↔ r.SpellsBech32Start (Text.withoutKelvin text) := by
  rw [isBech32Start, h.contains_bech32Starts_iff]
  constructor
  · rintro ⟨n, hn, hstart⟩
    obtain ⟨hascii, hsmall⟩ := bech32Start_of_valid (h.valid n hn)
    rw [hsmall, eq_comm, Text.lowercase_eq_iff (Text.isAscii_asciiLowercase.mpr hascii)] at hstart
    refine ⟨?_, n, hn, hstart⟩
    rw [← Text.isAscii_asciiLowercase, hstart, Text.isAscii_asciiLowercase]
    exact hascii
  · rintro ⟨-, n, hn, hstart⟩
    obtain ⟨hascii, hsmall⟩ := bech32Start_of_valid (h.valid n hn)
    refine ⟨n, hn, ?_⟩
    rw [hsmall, eq_comm, Text.lowercase_eq_iff (Text.isAscii_asciiLowercase.mpr hascii)]
    exact hstart

/-- In every reachable registry the starts that are found are the texts that spell
one once every Kelvin sign is a k.  Without Kelvin signs these are the texts that
spell one themselves, and a text with one, which never does, is found exactly if
it spells a start with a k in its place. -/
theorem Reachable.isBech32Start_exactly {r : Registry} (h : r.Reachable) (text : String) :
    (r.isBech32Start text = true ↔ r.SpellsBech32Start (Text.withoutKelvin text)) ∧
    ((r.isBech32Start text = true ↔ r.SpellsBech32Start text) ↔
      ¬ (Text.kelvin ∈ text.toList ∧ r.SpellsBech32Start (Text.withoutKelvin text))) := by
  have hfound := h.consistent.isBech32Start_iff text
  refine ⟨hfound, ?_⟩
  rw [hfound]
  by_cases hkelvin : Text.kelvin ∈ text.toList
  · have hnever : ¬ r.SpellsBech32Start text := fun hspells => hspells.1.kelvin_notMem hkelvin
    simp [hkelvin, hnever]
  · rw [Text.withoutKelvin_of_notMem hkelvin]
    simp [hkelvin]

/-- A network whose addresses start with `k1`. -/
def kNetwork : ParameterSet := { ParameterSet.regtest with humanReadablePart := "k" }

theorem kNetwork_spells : (empty.attempt kNetwork).SpellsBech32Start "k1" := by
  refine ⟨fun c hc => ?_, kNetwork, List.mem_singleton_self _, by decide +kernel⟩
  obtain rfl | rfl : c = 'k' ∨ c = '1' := by simpa using hc
  all_goals decide

theorem kNetwork_isBech32Start_exactly :
    ((empty.attempt kNetwork).isBech32Start "K1" = true ↔
      (empty.attempt kNetwork).SpellsBech32Start "K1") ∧
    ¬ ((empty.attempt kNetwork).isBech32Start "\u212a1" = true ↔
      (empty.attempt kNetwork).SpellsBech32Start "\u212a1") := by
  have hreachable : (empty.attempt kNetwork).Reachable := Reachable.empty.attempt kNetwork
  have hletter := (Reachable.isBech32Start_exactly hreachable "K1").2
  have hsign := (Reachable.isBech32Start_exactly hreachable "\u212a1").2
  have hplain : Text.withoutKelvin "\u212a1" = "k1" := by decide +kernel
  have hkelvin : Text.kelvin ∈ "\u212a1".toList := by decide +kernel
  have hnone : Text.kelvin ∉ "K1".toList := by decide +kernel
  rw [hletter, hsign, hplain]
  exact ⟨fun h => hnone h.1, fun h => h ⟨hkelvin, kNetwork_spells⟩⟩

/-- The Kelvin sign is found as the start of an address, which it never is. -/
theorem kelvin_isBech32Start :
    (empty.attempt kNetwork).Reachable ∧
    (empty.attempt kNetwork).isBech32Start "\u212a1" = true ∧
    ¬ (empty.attempt kNetwork).SpellsBech32Start "\u212a1" := by
  refine ⟨Reachable.empty.attempt kNetwork, by decide +kernel, ?_⟩
  intro hspells
  exact hspells.1.kelvin_notMem (by decide +kernel)

end ChainParams.Registry
