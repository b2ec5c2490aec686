import ChainParams.Json.Document

/-!
# Taking the tokens of a value

Taking the tokens of a value where a value is due leads to the place behind the value, with
the value put into the innermost frame.  This holds inside every stack of frames and before
all remaining tokens, which is what the induction on the value needs (`run_tokens`).

No other tokens lead to a value and nothing else (`run_eq_whole_iff`).  The invariant of the
run is that the frames, the place inside them and what was read of each are enough to write
down all tokens taken so far (`State.Behind`).
-/

namespace ChainParams.Json

/-! ## The tokens of a value -/

/-- Parts with commas between them. -/
def commaed (parts : List (List Token)) : List Token := [Token.comma].intercalate parts

mutual

/-- The tokens of a value. -/
def tokens : Json → List Token
  | .null => [.null]
  | .bool b => [.bool b]
  | .num n => [.num n]
  | .str text => [.str text]
  | .arr items => .openArr :: commaed (eachItem items) ++ [.closeArr]
  | .obj members => .openObj :: commaed (eachMember members) ++ [.closeObj]

/-- The tokens of each item of an array. -/
def eachItem : List Json → List (List Token)
  | [] => []
  | item :: items => item.tokens :: eachItem items

/-- The tokens of each member of an object. -/
def eachMember : Members → List (List Token)
  | [] => []
  | (key, value) :: members => (.str key :: .colon :: value.tokens) :: eachMember members

end

theorem eachItem_append (items more : List Json) :
    eachItem (items ++ more) = eachItem items ++ eachItem more := by
  induction items with
  | nil => rfl
  | cons item items ih => rw [List.cons_append, eachItem, eachItem, ih, List.cons_append]

theorem eachMember_append (members more : Members) :
    eachMember (members ++ more) = eachMember members ++ eachMember more := by
  induction members with
  | nil => rfl
  | cons member members ih => rw [List.cons_append, eachMember, eachMember, ih, List.cons_append]

/-- Each part behind the first one has a comma before it. -/
theorem commaed_cons (first : List Token) (parts : List (List Token)) :
    commaed (first :: parts) = first ++ parts.flatMap (.comma :: ·) := by
  induction parts generalizing first with
  | nil => simp [commaed]
  | cons part parts ih =>
      have hparts := ih part
      unfold commaed at hparts ⊢
      rw [List.intercalate_cons_cons, hparts, List.flatMap_cons]
      simp

/-- Each part before the last one has a comma behind it. -/
theorem commaed_concat (parts : List (List Token)) (last : List Token) :
    commaed (parts ++ [last]) = parts.flatMap (· ++ [.comma]) ++ last := by
  induction parts with
  | nil => simp [commaed]
  | cons part parts ih =>
      unfold commaed at ih ⊢
      rw [List.cons_append, List.intercalate_cons_of_ne_nil (by simp), ih, List.flatMap_cons]
      simp

/-! ## Runs over the tokens of a value -/

section

variable (b : Break)

/-- No value begins with a closing bracket, so the first item of an array is
taken as a value. -/
theorem run_firstItem (frames : List Frame) (j : Json) (rest : List Token) :
    (State.due .firstItem frames).run b (j.tokens ++ rest) =
      (State.due .value (.item [] :: frames)).run b (j.tokens ++ rest) := by
  cases j <;> rfl

mutual

/-- The tokens of a value put it into the innermost frame. -/
theorem run_tokens : ∀ (j : Json) (frames : List Frame) (rest : List Token),
    (State.due .value frames).run b (j.tokens ++ rest) = (plug j frames).run b rest
  | .null, _, _ => rfl
  | .bool _, _, _ => rfl
  | .num _, _, _ => rfl
  | .str _, _, _ => rfl
  | .arr [], _, _ => rfl
  | .obj [], _, _ => rfl
  | .arr (item :: items), frames, rest => by
      have hfirst := run_firstItem b frames item
      have hitem := run_tokens item (.item [] :: frames)
      have hitems := run_eachItem items [item] frames
      simp only [tokens, eachItem, commaed_cons, List.cons_append, List.append_assoc,
        List.nil_append]
      -- The frame keeps its items in reverse, and the closing bracket turns them round.
      calc (State.due .firstItem frames).run b _
          = (State.due (.afterItem [item]) frames).run b _ := (hfirst _).trans (hitem _)
        _ = (State.due (.afterItem (items.reverse ++ [item])) frames).run b (.closeArr :: rest) :=
            hitems _
        _ = (plug (.arr (items.reverse ++ [item]).reverse) frames).run b rest := rfl
        _ = (plug (.arr (item :: items)) frames).run b rest := by simp
  | .obj ((key, value) :: members), frames, rest => by
      have hvalue := run_tokens value (.member [] key :: frames)
      have hmembers := run_eachMember members [(key, value)] frames
      simp only [tokens, eachMember, commaed_cons, List.cons_append, List.append_assoc,
        List.nil_append]
      calc (State.due .value (.member [] key :: frames)).run b _
          = (State.due (.afterMember [(key, value)]) frames).run b _ := hvalue _
        _ = (State.due (.afterMember (members.reverse ++ [(key, value)])) frames).run b
              (.closeObj :: rest) := hmembers _
        _ = (plug (.obj (members.reverse ++ [(key, value)]).reverse) frames).run b rest := rfl
        _ = (plug (.obj ((key, value) :: members)) frames).run b rest := by simp

/-- The tokens of further items are taken behind the items already there. -/
theorem run_eachItem : ∀ (items done : List Json) (frames : List Frame) (rest : List Token),
    (State.due (.afterItem done) frames).run b
        ((eachItem items).flatMap (.comma :: ·) ++ rest) =
      (State.due (.afterItem (items.reverse ++ done)) frames).run b rest
  | [], _, _, _ => rfl
  | item :: items, done, frames, rest => by
      have hitem := run_tokens item (.item done :: frames)
      have hitems := run_eachItem items (item :: done) frames rest
      simp only [eachItem, List.flatMap_cons, List.cons_append, List.append_assoc]
      calc (State.due .value (.item done :: frames)).run b _
          = (State.due (.afterItem (item :: done)) frames).run b _ := hitem _
        _ = (State.due (.afterItem (items.reverse ++ item :: done)) frames).run b rest := hitems
        _ = (State.due (.afterItem ((item :: items).reverse ++ done)) frames).run b rest := by simp

/-- The tokens of further members are taken behind the members already there. -/
theorem run_eachMember : ∀ (members done : Members) (frames : List Frame) (rest : List Token),
    (State.due (.afterMember done) frames).run b
        ((eachMember members).flatMap (.comma :: ·) ++ rest) =
      (State.due (.afterMember (members.reverse ++ done)) frames).run b rest
  | [], _, _, _ => rfl
  | (key, value) :: members, done, frames, rest => by
      have hvalue := run_tokens value (.member done key :: frames)
      have hmembers := run_eachMember members ((key, value) :: done) frames rest
      simp only [eachMember, List.flatMap_cons, List.cons_append, List.append_assoc]
      calc (State.due .value (.member done key :: frames)).run b _
          = (State.due (.afterMember ((key, value) :: done)) frames).run b _ := hvalue _
        _ = (State.due (.afterMember (members.reverse ++ (key, value) :: done)) frames).run b
              rest := hmembers
        _ = (State.due (.afterMember (((key, value) :: members).reverse ++ done)) frames).run b
              rest := by simp

end

end

/-! ## The tokens behind a state -/

/-- The tokens of an array before the item that follows those read, latest first. -/
def itemsBefore (done : List Json) : List Token :=
  .openArr :: (eachItem done.reverse).flatMap (· ++ [.comma])

/-- The tokens of an object before the member that follows those read, latest first. -/
def membersBefore (done : Members) : List Token :=
  .openObj :: (eachMember done.reverse).flatMap (· ++ [.comma])

/-- The tokens of a frame before the value that is due in it. -/
def Frame.tokens : Frame → List Token
  | .item done => itemsBefore done
  | .member done key => membersBefore done ++ [.str key, .colon]

/-- The tokens before what is due inside the innermost of the frames. -/
def framesTokens : List Frame → List Token
  | [] => []
  | frame :: frames => framesTokens frames ++ frame.tokens

/-- The tokens between the innermost frame and a place.  Behind a part there is at least
this part. -/
inductive Place.Behind : Place → List Token → Prop
  | value : Behind .value []
  | firstItem : Behind .firstItem [.openArr]
  | afterItem (done : List Json) (j : Json) :
    Behind (.afterItem (j :: done)) (itemsBefore done ++ j.tokens)
  | firstKey : Behind .firstKey [.openObj]
  | key (done : Members) : Behind (.key done) (membersBefore done)
  | colon (done : Members) (key : Option String) :
    Behind (.colon done key) (membersBefore done ++ [.str key])
  | afterMember (done : Members) (key : Option String) (j : Json) :
    Behind (.afterMember ((key, j) :: done)) ((Frame.member done key).tokens ++ j.tokens)

/-- The tokens that led to a state.  Of a torn text none are remembered. -/
inductive State.Behind : State → List Token → Prop
  | due {place : Place} {taken : List Token} (frames : List Frame) (h : place.Behind taken) :
    Behind (.due place frames) (framesTokens frames ++ taken)
  | finished (j : Json) : Behind (.finished j) j.tokens
  | torn (t : Torn) (taken : List Token) : Behind (.torn t) taken

theorem behind_plug (j : Json) (frames : List Frame) :
    (plug j frames).Behind (framesTokens frames ++ j.tokens) := by
  cases frames with
  | nil => exact .finished j
  | cons frame frames =>
      rw [framesTokens, List.append_assoc]
      cases frame with
      | item done => exact .due frames (.afterItem done j)
      | member done key => exact .due frames (.afterMember done key j)

theorem behind_takeValue (frames : List Frame) (t : Token) :
    (takeValue frames t).Behind (framesTokens frames ++ [t]) := by
  unfold takeValue
  split
  · exact .due frames .firstItem
  · exact .due frames .firstKey
  · exact behind_plug .null frames
  · next b => exact behind_plug (.bool b) frames
  · next n => exact behind_plug (.num n) frames
  · next text => exact behind_plug (.str text) frames
  · exact .torn _ _

/-- A key behind the first brace, or behind a comma. -/
theorem behind_takeKey (done : Members) (frames : List Frame) (t : Token) :
    (takeKey done frames t).Behind (framesTokens frames ++ (membersBefore done ++ [t])) := by
  unfold takeKey
  split
  · next key => exact .due frames (.colon done key)
  · exact .torn _ _

theorem itemsBefore_cons (done : List Json) (j : Json) :
    itemsBefore (j :: done) = itemsBefore done ++ j.tokens ++ [.comma] := by
  simp [itemsBefore, eachItem_append, eachItem]

theorem membersBefore_cons (done : Members) (key : Option String) (j : Json) :
    membersBefore ((key, j) :: done) =
      (Frame.member done key).tokens ++ j.tokens ++ [.comma] := by
  simp [membersBefore, Frame.tokens, eachMember_append, eachMember]

theorem tokens_arr_reverse (done : List Json) (j : Json) :
    tokens (.arr (j :: done).reverse) = itemsBefore done ++ j.tokens ++ [.closeArr] := by
  rw [tokens, itemsBefore, List.reverse_cons, eachItem_append, eachItem, eachItem, commaed_concat]
  simp

theorem tokens_obj_reverse (done : Members) (key : Option String) (j : Json) :
    tokens (.obj ((key, j) :: done).reverse) =
      (Frame.member done key).tokens ++ j.tokens ++ [.closeObj] := by
  rw [tokens, Frame.tokens, membersBefore, List.reverse_cons, eachMember_append, eachMember,
    eachMember, commaed_concat]
  simp

theorem behind_value (frames : List Frame) :
    (State.due .value frames).Behind (framesTokens frames) := by
  have h := State.Behind.due frames .value
  rwa [List.append_nil] at h

/-- A token that is taken joins those behind the state. -/
theorem behind_take {place : Place} {taken : List Token} (frames : List Frame)
    (h : place.Behind taken) (t : Token) :
    (take frames place t).Behind (framesTokens frames ++ (taken ++ [t])) := by
  unfold take
  -- One case for each line of `take`, in its order; the lines that are left tear the text.
  split
  case h_1 =>
      cases h
      exact behind_takeValue frames t
  case h_2 =>
      cases h
      exact behind_plug (.arr []) frames
  case h_3 =>
      cases h
      rw [← List.append_assoc]
      exact behind_takeValue (.item [] :: frames) t
  case h_4 =>
      cases h with
      | afterItem done j =>
        rw [← itemsBefore_cons]
        exact behind_value (.item (j :: done) :: frames)
  case h_5 =>
      cases h with
      | afterItem done j =>
        rw [← tokens_arr_reverse]
        exact behind_plug (.arr (j :: done).reverse) frames
  case h_7 =>
      cases h
      exact behind_plug (.obj []) frames
  case h_8 =>
      cases h
      exact behind_takeKey [] frames t
  case h_9 =>
      cases h
      exact behind_takeKey _ frames t
  case h_10 =>
      cases h
      rw [List.append_assoc]
      exact behind_value (.member _ _ :: frames)
  case h_12 =>
      cases h with
      | afterMember done key j =>
        rw [← membersBefore_cons]
        exact .due frames (.key _)
  case h_13 =>
      cases h with
      | afterMember done key j =>
        rw [← tokens_obj_reverse]
        exact behind_plug (.obj ((key, j) :: done).reverse) frames
  all_goals exact .torn _ _

/-- A run that ends with a value and nothing behind it has taken the tokens of this
value. -/
theorem eq_tokens_of_run {s : State} {taken rest : List Token} {b : Break} {j : Json}
    (h : s.Behind taken) (hrun : s.run b rest = .whole j false) :
    taken ++ rest = j.tokens ∧ b = .ended := by
  -- Each token moves from those that remain to those behind the state.
  induction rest generalizing s taken with
  | nil =>
      cases h with
      | due frames h => cases hrun
      | finished j' =>
          obtain ⟨rfl, htrailing⟩ := Document.whole.inj hrun
          exact ⟨List.append_nil _, by simpa using htrailing⟩
      | torn t => cases hrun
  | cons t rest ih =>
      cases h with
      | @due place taken frames h =>
          have hstep := ih (behind_take frames h t) hrun
          simpa using hstep
      | finished j' =>
          obtain ⟨-, htrailing⟩ := Document.whole.inj hrun
          cases htrailing
      | torn t => cases hrun

/-- Exactly the tokens of a value lead to this value and nothing else. -/
theorem run_eq_whole_iff {tokens : List Token} {b : Break} {j : Json} :
    (State.due .value []).run b tokens = .whole j false ↔ tokens = j.tokens ∧ b = .ended := by
  constructor
  · exact eq_tokens_of_run (behind_value [])
  · rintro ⟨rfl, rfl⟩
    have hrun := run_tokens .ended j [] []
    rw [List.append_nil] at hrun
    exact hrun

end ChainParams.Json
