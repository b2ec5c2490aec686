import ChainParams.Known
import ChainParams.Proofs.Config.RoundTrip
import ChainParams.Proofs.Schema.Respelling

/-!
# Configuration files in other words

A configuration file may have its fields in any order, blanks wherever tokens end, and
fields that nobody asked for: it describes the same network.  Only the deployment table
refuses fields it does not know, so nothing can be added to it.
-/

namespace ChainParams

open Json (Spells)

/-! ## Forms -/

/-- A text is read if it spells a value that is read. -/
theorem Form.readText_eq_ok_iff {α : Type} {form : Form α} {text : String} {a : α} :
    form.readText text = .ok a ↔ ∃ j, Spells text j ∧ form.read j = .ok a := by
  simp only [readText, read, map_eq_ok_iff, Schema.readText_eq_ok_iff]
  grind

/-- Blanks behind a text are passed over. -/
theorem Form.readText_append {α : Type} {form : Form α} {text gap : String} {a : α}
    (h : form.readText text = .ok a) (hgap : ∀ c ∈ gap.toList, Json.isGap c = true) :
    form.readText (text ++ gap) = .ok a := by
  obtain ⟨j, htext, hread⟩ := readText_eq_ok_iff.mp h
  exact readText_eq_ok_iff.mpr ⟨j, htext.append hgap, hread⟩

theorem Form.read_respells {α : Type} {form : Form α} {j j' : Json} {a : α}
    (h : form.schema.Respells j j') (hread : form.read j = .ok a) : form.read j' = .ok a := by
  obtain ⟨value, hvalue, rfl⟩ := map_eq_ok_iff.mp hread
  exact map_eq_ok_iff.mpr ⟨value, form.schema.read_respells h hvalue, rfl⟩

theorem Config.parse_append {text gap : String} {p : ParameterSet} (h : parse text = .ok p)
    (hgap : ∀ c ∈ gap.toList, Json.isGap c = true) : parse (text ++ gap) = .ok p := by
  obtain ⟨hread, hvalid⟩ := parse_eq_ok_iff.mp h
  exact parse_eq_ok_iff.mpr ⟨Form.readText_append hread hgap, hvalid⟩

/-! ## Parameter sets -/

namespace ParameterSet

/-- A text that describes a parameter set spells one value, and every text that spells a
respelling of this value describes the same set. -/
theorem readText_respelled {text : String} {p : ParameterSet} (h : form.readText text = .ok p) :
    (∃ j, Spells text j) ∧
    ∀ (j j' : Json) (text' : String), Spells text j → form.schema.Respells j j' → Spells text' j' →
      form.readText text' = .ok p ∧ Config.parse text' = Config.parse text := by
  obtain ⟨j₀, htext, hread⟩ := Form.readText_eq_ok_iff.mp h
  refine ⟨⟨j₀, htext⟩, ?_⟩
  intro j j' text' hj hrespells htext'
  obtain rfl : j₀ = j := htext.unique hj
  have h' : form.readText text' = .ok p :=
    Form.readText_eq_ok_iff.mpr ⟨j', htext', Form.read_respells hrespells hread⟩
  refine ⟨h', ?_⟩
  rw [Config.parse, Config.parse, h, h']

/-- An object with its members turned round and a remark before them. -/
def remarked (remark : Json) : Json → Json
  | .obj members => .obj ((some "comment", remark) :: members.reverse)
  | j => j

/-- A value that no field of any record takes: neither the key nor the string spells a text,
and the number is out of range. -/
def oddity : Json := .arr [.arr [.obj [(none, .str none), (some "", .num ⟨true, 7, [], some 999⟩)]]]

theorem respells_remarked (remark : Json) (p : ParameterSet) :
    form.schema.Respells (form.write p) (remarked remark (form.write p)) := by
  have hperm (members : Json.Members) : (members ++ [(some "comment", remark)]).Perm
      ((some "comment", remark) :: members.reverse) :=
    List.perm_append_comm.trans ((List.reverse_perm members).symm.cons _)
  refine Schema.respells_of_perm ?_ (hperm _)
  intro member hmember
  obtain rfl := List.mem_singleton.mp hmember
  exact ⟨rfl, "comment", by decide, rfl⟩

theorem regtest_respelled :
    form.readText (form.write regtest).indented = .ok regtest ∧
    form.readText ((remarked oddity (form.write regtest)).compact ++ " \r\n") = .ok regtest ∧
    Config.parse ((remarked oddity (form.write regtest)).compact ++ " \r\n") =
      Config.parse (form.write regtest).indented := by
  have hwidth : ¬ maxTargetBits < bitLength regtest.powLimit := by decide +kernel
  have hread := lawful_form.readText_write distinct_schema Json.Style.blank_indented regtest
  rw [tooWide?_toValue, Kind.tooWide?, if_neg hwidth] at hread
  have hgap : ∀ c ∈ " \r\n".toList, Json.isGap c = true := by simp [Json.isGap]
  have htext := Json.spells_write Json.Style.blank_indented (form.write regtest)
  have htext' := Json.spells_write Json.Style.blank_compact (remarked oddity (form.write regtest))
  have hsame := (readText_respelled hread).2 _ _ _ htext (respells_remarked oddity regtest)
    (htext'.append hgap)
  exact ⟨hread, hsame⟩

end ParameterSet

end ChainParams
