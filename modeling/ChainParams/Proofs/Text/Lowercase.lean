import ChainParams.Text.Blank
import ChainParams.Text.Lowercase

/-!
# Texts whose lowercase is an ASCII text

An ASCII character has an ASCII character as its small form, which is its own
small letter.  Of all the other characters only the Kelvin sign has a small form
without any character beyond ASCII: the letter k.  So a text has an ASCII text as
its lowercase exactly if it holds nothing but ASCII characters and Kelvin signs,
and then the lowercase is that of the text with a k in place of each of them.
-/

namespace ChainParams.Text

/-- Whether a text is made of ASCII characters. -/
def IsAscii (text : String) : Prop := ∀ c ∈ text.toList, c.toNat < 0x80

/-- The sign for the unit of temperature, which looks like the letter K. -/
def kelvin : Char := '\u212a'

/-- The letter k in place of a Kelvin sign. -/
def plain (c : Char) : Char := if c = kelvin then 'k' else c

/-- The text with the letter k in place of its Kelvin signs. -/
def withoutKelvin (text : String) : String := String.ofList (text.toList.map plain)

/-! ## Small forms of single characters -/

theorem toNat_ofNat_of_valid {n : Nat} (h : n.isValidChar) : (Char.ofNat n).toNat = n := by
  rw [Char.ofNat, dif_pos h]
  rfl

/-- A capital is moved to its small letter, and every other character is kept. -/
theorem toLower_cases (c : Char) :
    (65 ≤ c.toNat ∧ c.toNat ≤ 90 ∧ c.toLower.toNat = c.toNat + 32) ∨
      (c.isUpper = false ∧ c.toLower = c) := by
  by_cases hcapital : c.val ≥ 'A'.val ∧ c.val ≤ 'Z'.val
  · have hfirst : 65 ≤ c.toNat := UInt32.le_iff_toNat_le.mp hcapital.1
    have hlast : c.toNat ≤ 90 := UInt32.le_iff_toNat_le.mp hcapital.2
    have hsmall : c.toLower.val = c.val + 32 := congrArg Char.val (dif_pos hcapital)
    have hmoved : c.toLower.toNat = (c.toNat + 32) % 2 ^ 32 := by
      change c.toLower.val.toNat = _
      rw [hsmall, UInt32.toNat_add]
      rfl
    exact .inl ⟨hfirst, hlast, by omega⟩
  · exact .inr ⟨decide_eq_false hcapital, dif_neg hcapital⟩

theorem toLower_ascii {c : Char} (h : c.toNat < 0x80) : c.toLower.toNat < 0x80 := by
  rcases toLower_cases c with ⟨-, hlast, hmoved⟩ | ⟨-, hsame⟩
  · omega
  · rwa [hsame]

theorem toLower_of_not_ascii {c : Char} (h : 0x80 ≤ c.toNat) : c.toLower = c := by
  rcases toLower_cases c with ⟨-, hlast, -⟩ | ⟨-, hsame⟩
  · omega
  · exact hsame

/-- Whether a run leads from characters beyond ASCII to characters beyond ASCII. -/
def StaysBeyond (run : CaseRun) : Prop :=
  0x80 ≤ run.first + run.distance ∧
    (run.last + run.distance < 0xd800 ∨
      0xdfff < run.first + run.distance ∧ run.last + run.distance < 0x110000)

instance (run : CaseRun) : Decidable (StaysBeyond run) := by
  unfold StaysBeyond
  infer_instance

/-- Only the Kelvin sign comes back to ASCII. -/
theorem staysBeyond_of_mem : ∀ run ∈ caseRuns,
    StaysBeyond run ∨ run.first = kelvin.toNat ∧ run.last = kelvin.toNat := by
  decide +kernel

/-- A code point of a run that stays beyond ASCII has its small letter there. -/
theorem StaysBeyond.le_toNat {run : CaseRun} (h : StaysBeyond run) {code : Nat}
    (hcode : run.holds code = true) :
    0x80 ≤ (Char.ofNat (code + run.distance : Int).toNat).toNat := by
  simp only [CaseRun.holds, Bool.and_eq_true, decide_eq_true_eq] at hcode
  obtain ⟨⟨hfirst, hlast⟩, -⟩ := hcode
  obtain ⟨hlow, hhigh⟩ := h
  have hvalid : (code + run.distance : Int).toNat.isValidChar := by
    rcases hhigh with hhigh | ⟨hhigh, hmax⟩
    · exact .inl (by omega)
    · exact .inr ⟨by omega, by omega⟩
  rw [toNat_ofNat_of_valid hvalid]
  omega

theorem lowercaseChar_kelvin : lowercaseChar kelvin = ['k'] := by
  decide +kernel

/-- Every other character beyond ASCII has one in its small form. -/
theorem exists_beyond_lowercaseChar {c : Char} (hc : 0x80 ≤ c.toNat) (hkelvin : c ≠ kelvin) :
    ∃ d ∈ lowercaseChar c, 0x80 ≤ d.toNat := by
  rw [lowercaseChar, if_neg (by omega)]
  by_cases hdotted : c = '\u0130'
  · rw [if_pos hdotted]
    exact ⟨'\u0307', by simp, by decide⟩
  · rw [if_neg hdotted]
    cases hfind : caseRuns.find? (·.holds c.toNat) with
    | none => exact ⟨c, List.mem_singleton_self c, hc⟩
    | some run =>
        have hholds : run.holds c.toNat = true := by simpa using List.find?_some hfind
        refine ⟨_, List.mem_singleton_self _, ?_⟩
        rcases staysBeyond_of_mem run (List.mem_of_find?_eq_some hfind) with hrun | ⟨hfirst, hlast⟩
        · exact hrun.le_toNat hholds
        · simp only [CaseRun.holds, Bool.and_eq_true, decide_eq_true_eq, hfirst, hlast] at hholds
          have heq : c.toNat = kelvin.toNat := Nat.le_antisymm hholds.1.2 hholds.1.1
          exact absurd (Char.toNat_inj.mp heq) hkelvin

/-! ## Lowercase of texts -/

theorem lowercaseAfter_eq_map {text : List Char} (h : ∀ c ∈ text, c.toNat < 0x80 ∨ c = kelvin)
    (before : List Char) :
    lowercaseAfter before text = (text.map plain).map Char.toLower := by
  induction text generalizing before with
  | nil => rfl
  | cons c text ih =>
      have hrest := ih (fun d hd => h d (List.mem_cons_of_mem _ hd)) (c :: before)
      have hsmall : (if c = '\u03a3' then [lowercaseSigma before text] else lowercaseChar c) =
          [(plain c).toLower] := by
        rcases h c (List.mem_cons_self ..) with hascii | rfl
        · have hsigma : c ≠ '\u03a3' := by
            rintro rfl
            exact absurd hascii (by decide)
          have hplain : c ≠ kelvin := by
            rintro rfl
            exact absurd hascii (by decide)
          rw [if_neg hsigma, lowercaseChar, if_pos hascii, plain, if_neg hplain]
        · exact lowercaseChar_kelvin
      rw [lowercaseAfter, hsmall, hrest]
      rfl

theorem exists_beyond_lowercaseAfter {text : List Char} {c : Char} (hmem : c ∈ text)
    (hc : 0x80 ≤ c.toNat) (hkelvin : c ≠ kelvin) (before : List Char) :
    ∃ d ∈ lowercaseAfter before text, 0x80 ≤ d.toNat := by
  induction text generalizing before with
  | nil => cases hmem
  | cons b text ih =>
      rw [lowercaseAfter]
      rcases List.mem_cons.mp hmem with rfl | hmem
      · by_cases hsigma : c = '\u03a3'
        · -- Both small forms of a sigma are beyond ASCII, whichever the letters around it ask for.
          rw [if_pos hsigma]
          refine ⟨_, List.mem_append_left _ (List.mem_singleton_self _), ?_⟩
          rw [lowercaseSigma]
          split <;> decide
        · rw [if_neg hsigma]
          obtain ⟨d, hd, hbeyond⟩ := exists_beyond_lowercaseChar hc hkelvin
          exact ⟨d, List.mem_append_left _ hd, hbeyond⟩
      · obtain ⟨d, hd, hbeyond⟩ := ih hmem (b :: before)
        exact ⟨d, List.mem_append_right _ hd, hbeyond⟩

theorem withoutKelvin_of_notMem {text : String} (h : kelvin ∉ text.toList) :
    withoutKelvin text = text := by
  have hplain : ∀ c ∈ text.toList, plain c = c := by
    intro c hc
    refine if_neg ?_
    rintro rfl
    exact h hc
  rw [withoutKelvin, List.map_congr_left hplain, List.map_id', String.ofList_toList]

theorem IsAscii.kelvin_notMem {text : String} (h : IsAscii text) : kelvin ∉ text.toList :=
  fun hmem => absurd (h kelvin hmem) (by decide)

theorem isAscii_asciiLowercase {text : String} : IsAscii (asciiLowercase text) ↔ IsAscii text := by
  rw [IsAscii, asciiLowercase, String.toList_ofList, List.forall_mem_map]
  refine forall₂_congr fun c _ => ⟨fun h => ?_, toLower_ascii⟩
  rcases Nat.lt_or_ge c.toNat 0x80 with hc | hc
  · exact hc
  · rwa [toLower_of_not_ascii hc] at h

theorem asciiLowercase_append (first second : String) :
    asciiLowercase (first ++ second) = asciiLowercase first ++ asciiLowercase second := by
  simp [asciiLowercase]

/-- Two ways to an ASCII text: as the lowercase of a text, and by making the ASCII
capitals of the text without its Kelvin signs small. -/
theorem lowercase_eq_iff {small : String} (hsmall : IsAscii small) (text : String) :
    lowercase text = small ↔ asciiLowercase (withoutKelvin text) = small := by
  by_cases hplain : ∀ c ∈ text.toList, c.toNat < 0x80 ∨ c = kelvin
  · rw [lowercase, lowercaseAfter_eq_map hplain, asciiLowercase, withoutKelvin,
      String.toList_ofList]
  · -- Either side keeps a character beyond ASCII, so neither is an ASCII text.
    obtain ⟨c, hc, hbeyond, hkelvin⟩ :
        ∃ c ∈ text.toList, 0x80 ≤ c.toNat ∧ c ≠ kelvin := by simpa using hplain
    constructor
    · rintro rfl
      obtain ⟨d, hd, hdbeyond⟩ := exists_beyond_lowercaseAfter hc hbeyond hkelvin []
      have := hsmall d (by rwa [lowercase, String.toList_ofList])
      omega
    · rintro rfl
      have hascii := isAscii_asciiLowercase.mp hsmall c
      rw [withoutKelvin, String.toList_ofList] at hascii
      have := hascii (List.mem_map.mpr ⟨c, hc, if_neg hkelvin⟩)
      omega

/-- On ASCII texts there is one lowercase only. -/
theorem lowercase_of_isAscii {text : String} (h : IsAscii text) :
    lowercase text = asciiLowercase text := by
  rw [lowercase_eq_iff (isAscii_asciiLowercase.mpr h), withoutKelvin_of_notMem h.kelvin_notMem]

end ChainParams.Text
