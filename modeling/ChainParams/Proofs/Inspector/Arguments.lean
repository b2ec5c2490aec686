import ChainParams.Inspector.Arguments

/-!
# What can be asked of the inspector

Every network name can be given, blanks and leading hyphens included, and every
path that is not empty: written behind the equals sign of its option, a value is
read back as it is.  No arguments ask for the file with the empty path, and that
is the only restriction (`exists_asks_iff`).
-/

namespace ChainParams.Inspector

/-- Whether arguments are understood as a request. -/
def Asks (args : List String) (request : Request) : Prop :=
  Invocation.ofArguments? args = some (.show request)

instance (args : List String) (request : Request) : Decidable (Asks args request) :=
  inferInstanceAs (Decidable (_ = _))

/-! ## Writing a request -/

/-- A long option with its value behind an equals sign. -/
def longOption (name value : String) : String := "--" ++ name ++ "=" ++ value

/-- A request as arguments. -/
def Request.arguments (request : Request) : List String :=
  longOption "network" request.network ::
    ((request.custom.map (longOption "custom")).toList ++ if request.json then ["--json"] else [])

theorem Argument.ofText_longOption {name : String} (value : String) (h : '=' ∉ name.toList) :
    ofText (longOption name value) = ofLong name (some value) := by
  have htext : (longOption name value).toList =
      '-' :: '-' :: (name.toList ++ '=' :: value.toList) := by
    simp [longOption, String.toList_append]
  have hname : ∀ c ∈ name.toList, decide (c ≠ '=') = true := by
    intro c hc
    exact decide_eq_true fun heq => h (heq ▸ hc)
  have htake : (name.toList ++ '=' :: value.toList).takeWhile (· ≠ '=') = name.toList := by
    rw [List.takeWhile_append_of_pos hname, List.takeWhile_cons_of_neg (by decide),
      List.append_nil]
  have hdrop : (name.toList ++ '=' :: value.toList).dropWhile (· ≠ '=') = '=' :: value.toList := by
    rw [List.dropWhile_append_of_pos hname, List.dropWhile_cons_of_neg (by decide)]
  -- Behind the hyphens stands at least the equals sign, so this is not the separator.
  obtain ⟨c, long, hlong⟩ := List.exists_cons_of_ne_nil
    (List.append_ne_nil_of_right_ne_nil name.toList (List.cons_ne_nil '=' value.toList))
  rw [hlong] at htext htake hdrop
  simp only [ofText, htext, hdrop, htake, String.ofList_toList]

theorem readArguments_given {seen seen' : Seen} {text value : String} {option : ValueOption}
    (htext : Argument.ofText text = .given option value)
    (hgive : seen.give? option value = some seen') (rest : List String) :
    readArguments seen (text :: rest) = readArguments seen' rest := by
  rw [readArguments.eq_def]
  simp only [htext, hgive]
  rfl

theorem readArguments_json (seen : Seen) (json : Bool) (h : seen.json = false) :
    readArguments seen (if json then ["--json"] else []) =
      some (.show { seen.request with json }) := by
  obtain ⟨network, custom, _⟩ := seen
  subst h
  cases json with
  | true => rfl
  | false => rfl

/-- Every request that is not for the empty path can be written. -/
theorem asks_arguments {request : Request} (h : request.custom ≠ some "") :
    Asks request.arguments request := by
  obtain ⟨network, custom, json⟩ := request
  have hnetwork : Argument.ofText (longOption "network" network) = .given .network network :=
    Argument.ofText_longOption network (by decide)
  rw [Asks, Invocation.ofArguments?, Request.arguments, readArguments_given hnetwork rfl]
  cases custom with
  | none => exact readArguments_json _ json rfl
  | some path =>
      have hcustom : Argument.ofText (longOption "custom" path) = .given .custom path :=
        Argument.ofText_longOption path (by decide)
      have hgive : ({ network := some network } : Seen).give? .custom path =
          some { network := some network, custom := some path } := by
        have hpath : path ≠ "" := fun heq => h (congrArg some heq)
        rw [Seen.give?]
        exact if_neg fun hrefused => hrefused.elim nofun hpath
      exact (readArguments_given hcustom hgive _).trans (readArguments_json _ json rfl)

/-! ## Requests that are read -/

theorem custom_ne_of_give? {seen seen' : Seen} {option : ValueOption} {value : String}
    (hgive : seen.give? option value = some seen') (h : seen.custom ≠ some "") :
    seen'.custom ≠ some "" := by
  cases option with
  | network =>
      rw [Seen.give?] at hgive
      split at hgive
      · cases hgive
      · cases hgive
        exact h
  | custom =>
      rw [Seen.give?] at hgive
      split at hgive
      · cases hgive
      · next haccepted =>
          cases hgive
          intro hvalue
          exact haccepted (.inr (Option.some.inj hvalue))

theorem custom_ne_of_flag? {seen seen' : Seen} (hflag : seen.flag? = some seen')
    (h : seen.custom ≠ some "") : seen'.custom ≠ some "" := by
  rw [Seen.flag?] at hflag
  split at hflag
  · cases hflag
  · cases hflag
    exact h

theorem custom_ne_of_readArguments {seen : Seen} {args : List String} {request : Request}
    (hread : readArguments seen args = some (.show request)) (h : seen.custom ≠ some "") :
    request.custom ≠ some "" := by
  -- No option that is read brings in the empty path, so it is never among those seen.
  fun_induction readArguments seen args with
  | case1 seen =>
      cases hread
      exact h
  | case3 seen _ option value rest _ _ ih =>
      obtain ⟨seen', hgive, hrest⟩ := Option.bind_eq_some_iff.mp hread
      exact ih seen' hrest (custom_ne_of_give? hgive h)
  | case5 seen _ rest option value _ ih =>
      obtain ⟨seen', hgive, hrest⟩ := Option.bind_eq_some_iff.mp hread
      exact ih seen' hrest (custom_ne_of_give? hgive h)
  | case6 seen _ rest _ ih =>
      obtain ⟨seen', hflag, hrest⟩ := Option.bind_eq_some_iff.mp hread
      exact ih seen' hrest (custom_ne_of_flag? hflag h)
  | case8 seen =>
      cases hread
      exact h
  | _ => cases hread

/-- The requests that can be made are those that are not for the empty path. -/
theorem exists_asks_iff (request : Request) :
    (∃ args, Asks args request) ↔ request.custom ≠ some "" := by
  constructor
  · rintro ⟨args, hargs⟩
    exact custom_ne_of_readArguments hargs nofun
  · intro h
    exact ⟨_, asks_arguments h⟩

end ChainParams.Inspector
