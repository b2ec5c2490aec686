import ChainParams.Proofs.Config.Exchange
import ChainParams.Proofs.Json.Place
import ChainParams.Proofs.Schema.Integer

/-!
# Integers of a configuration file

In a text that describes a parameter set, the number of an integer field can be overwritten by
any numeral.  If this is an integer between the bounds of the field, the text describes the same
set with this integer in the field, and otherwise it is not read at all
(`ParameterSet.readText_integer`).
-/

namespace ChainParams

open Json (Literal Numeral Spells)

namespace ParameterSet

variable {p : ParameterSet} {j j' : Json} {path : List Json.Step} {kind : Kind}
  {low high : Int} {old : Json} {n : Numeral}

theorem exists_num_of_read {any j₀ : Json} (hat : schema.at? path = some (.leaf kind))
    (hrange : kind.range? = some (low, high)) (hplace : Json.Replaces old any path j j₀)
    (hread : form.read j = .ok p) : ∃ l, old = .num l := by
  obtain ⟨value, hvalue, rfl⟩ := map_eq_ok_iff.mp hread
  obtain ⟨part, hold, -⟩ := (schema.read_replaced hat hplace hvalue).eq_modified
  exact Kind.exists_num_of_read hrange hold

section

variable (hat : schema.at? path = some (.leaf kind)) (hrange : kind.range? = some (low, high))
  (hreplaces : Json.Replaces old n.json path j j') (hread : form.read j = .ok p)
include hat hrange hreplaces hread

/-- An integer between the bounds of a field is its new value, and no other field changes. -/
theorem readsAs_of_inRange (hn : n.IsInteger ∧ low ≤ n.value ∧ n.value ≤ high) :
    ∃ m p', form.ReadsAs j' (.ok p') ∧
      Json.Replaces (.ofInt m) (.ofInt n.value) (schema.named path) (form.write p)
        (form.write p') := by
  obtain ⟨value, hvalue, hwrite⟩ := (Kind.read_numeral hrange n).1 hn
  have hnew : (Schema.leaf kind).read n.json = .ok value := hvalue
  obtain ⟨part, p', -, hread', hexchanged⟩ := faithful_form.read_exchanged hat hreplaces hread hnew
  obtain ⟨m, hm⟩ := Kind.exists_write hrange part
  change Json.Replaces (kind.write part) (kind.write value) _ _ _ at hexchanged
  rw [hm, hwrite] at hexchanged
  exact ⟨m, p', hread' ▸ form.readsAs_read j', hexchanged⟩

/-- Every other number is refused. -/
theorem readsAs_of_not_inRange (hn : ¬ (n.IsInteger ∧ low ≤ n.value ∧ n.value ≤ high)) :
    ∃ fault, form.ReadsAs j' (.error fault) := by
  obtain ⟨fault, hfault⟩ := (Kind.read_numeral hrange n).2 hn
  obtain ⟨value, hvalue, rfl⟩ := map_eq_ok_iff.mp hread
  exact ⟨fault, Form.readsAs_of_error
    ((schema.read_replaced hat hreplaces hvalue).eq_error fault hfault)⟩

end

/-- In a text that describes a parameter set every integer field is a number in one place, where
every numeral can stand instead.  An integer between the bounds of the field is its new value, and
no other field changes; with any other numeral the text is refused. -/
theorem readText_integer {text : String} (h : form.readText text = .ok p) :
    (∃ j, Spells text j) ∧
    ∀ j old path kind low high, Spells text j → Json.Replaces old old path j j →
      schema.at? path = some (.leaf kind) → kind.range? = some (low, high) →
        ∃ front number back, text = front ++ number ++ back ∧ Spells number old ∧
          ∀ n : Numeral,
            (∃ j', Json.Replaces old n.json path j j' ∧ Spells (front ++ n.text ++ back) j') ∧
            (n.IsInteger ∧ low ≤ n.value ∧ n.value ≤ high →
              ∃ m p', form.readText (front ++ n.text ++ back) = .ok p' ∧
                Json.Replaces (.ofInt m) (.ofInt n.value) (schema.named path) (form.write p)
                  (form.write p')) ∧
            (¬ (n.IsInteger ∧ low ≤ n.value ∧ n.value ≤ high) →
              ∃ fault, form.readText (front ++ n.text ++ back) = .error fault ∧
                Config.parse (front ++ n.text ++ back) = .error (.malformed fault)) := by
  obtain ⟨j₀, hj₀, hread⟩ := Form.readText_eq_ok_iff.mp h
  refine ⟨⟨j₀, hj₀⟩, ?_⟩
  intro j old path kind low high hj hplace hat hrange
  obtain rfl : j₀ = j := hj₀.unique hj
  obtain ⟨l, rfl⟩ := exists_num_of_read hat hrange hplace hread
  obtain ⟨front, number, back, htext, hnumber, hother⟩ := hj.exists_number hplace
  refine ⟨front, number, back, htext, hnumber, ?_⟩
  intro n
  obtain ⟨j', hreplaces, hj'⟩ := hother n
  refine ⟨⟨j', hreplaces, hj'⟩, ?_, ?_⟩
  · intro hn
    obtain ⟨m, p', hreads, hexchanged⟩ := readsAs_of_inRange hat hrange hreplaces hread hn
    exact ⟨m, p', hreads _ hj', hexchanged⟩
  · intro hn
    obtain ⟨fault, hreads⟩ := readsAs_of_not_inRange hat hrange hreplaces hread hn
    refine ⟨fault, hreads _ hj', ?_⟩
    rw [Config.parse, hreads _ hj']

/-- The port is overwritten by the highest one, and by the number behind it. -/
theorem regtest_integer :
    ∃ front number back, Config.render regtest = front ++ number ++ back ∧
      (∃ p, form.readText (front ++ (Literal.ofInt 65535).numeral.text ++ back) = .ok p) ∧
      ∃ fault, form.readText (front ++ (Literal.ofInt 65536).numeral.text ++ back) =
        .error fault := by
  have hvalid : regtest.validate = .ok () := by rfl
  have hread := (Config.parse_eq_ok_iff.mp (Config.parse_render_of_valid hvalid)).1
  have htext := Json.spells_write Json.Style.blank_indented (form.write regtest)
  have hplace : Json.Replaces (.ofInt 19994) (.ofInt 19994) [.field "default_port"]
      (form.write regtest) (form.write regtest) :=
    .field ((membersOf (form.write regtest)).take 2) "default_port"
      ((membersOf (form.write regtest)).drop 3) .here
  obtain ⟨front, number, back, hsplit, -, hother⟩ :=
    (readText_integer hread).2 _ _ _ .u16 _ _ htext hplace rfl rfl
  obtain ⟨-, hlast, -⟩ := hother (Literal.ofInt 65535).numeral
  obtain ⟨-, -, hbeyond⟩ := hother (Literal.ofInt 65536).numeral
  rw [Literal.value_numeral_ofInt] at hlast hbeyond
  obtain ⟨m, p, hp, -⟩ := hlast ⟨Literal.isInteger_numeral_ofInt _, by decide, by decide⟩
  obtain ⟨fault, hfault, -⟩ := hbeyond fun h => absurd h.2.2 (by decide)
  exact ⟨front, number, back, hsplit, ⟨p, hp⟩, fault, hfault⟩

end ParameterSet

end ChainParams
