import DeviceTwin.Program.Arguments

/-!
# The verbosity among the arguments

The option that asks for a verbosity can be spelled in two ways (`Spelling.words`).  Wherever it
stands among the arguments, and whatever stands around it, another value in its place changes
nothing in what is read but the verbosity (`parse_words`): the same faults are found, and the same
is asked for.  Arguments that do not name the option ask for no verbosity (`verbosity_of_parse`),
and putting it in front of them adds just that (`parse_words_append`).
-/

namespace DeviceTwin.Program

/-- The name of the option that asks for a verbosity. -/
def verbosityOption : Text := "log-level".toList

/-- How the option that asks for a verbosity can be spelled. -/
inductive Spelling where
  /-- The value stands behind an equals sign. -/
  | joined
  /-- The value is an argument of its own. -/
  | apart
  deriving DecidableEq, Repr

/-- The arguments that ask for a verbosity. -/
def Spelling.words (v : Log.Verbosity) : Spelling → List Text
  | joined => ["--log-level=".toList ++ v.name]
  | apart => ["--log-level".toList, v.name]

/-- No argument names the option that asks for a verbosity. -/
def NamesNoVerbosity (line : List Text) : Prop :=
  ∀ word ∈ line, ∀ value, Word.of word ≠ .long verbosityOption value

theorem NamesNoVerbosity.tail {word : Text} {rest : List Text}
    (h : NamesNoVerbosity (word :: rest)) : NamesNoVerbosity rest :=
  fun other hother => h other (List.mem_cons_of_mem word hother)

/-! ## Names of options -/

theorem wordOf_joined (v : Log.Verbosity) :
    Word.of ("--log-level=".toList ++ v.name) = .long verbosityOption (some v.name) := by
  cases v <;> rfl

theorem wordOf_apart : Word.of "--log-level".toList = .long verbosityOption none := rfl

theorem wordOf_name (v : Log.Verbosity) : Word.of v.name = .plain v.name := by
  cases v <;> rfl

theorem ofName?_verbosityOption : Switch.ofName? verbosityOption = some (.set .verbosity) := by
  decide

theorem eq_verbosityOption {name : Text} (h : Switch.ofName? name = some (.set .verbosity)) :
    name = verbosityOption := by
  unfold Switch.ofName? at h
  split at h
  · cases h
  split at h
  · next hname => exact hname
  split at h
  · cases h
  split at h <;> cases h

/-! ## Another verbosity -/

/-- The arguments with another verbosity, or without one. -/
def Arguments.withVerbosity (v : Option Log.Verbosity) (a : Arguments) : Arguments :=
  { a with verbosity := v }

/-- The request with another verbosity, or without one. -/
def Request.withVerbosity (v : Option Log.Verbosity) : Request → Request
  | run a => run (a.withVerbosity v)
  | help => help
  | version => version

/-- What has been read, with another verbosity or without one. -/
def Reading.withVerbosity (v : Option Log.Verbosity) (r : Reading) : Reading :=
  { r with arguments := r.arguments.withVerbosity v }

theorem withVerbosity_of_ofName? {name : Text} {request : Request} (v : Option Log.Verbosity)
    (h : Switch.ofName? name = some (.ask request)) : request.withVerbosity v = request := by
  unfold Switch.ofName? at h
  split at h
  · cases h
  split at h
  · cases h
  split at h
  · cases h
    rfl
  split at h
  · cases h
    rfl
  · cases h

theorem withVerbosity_of_ofLetter? {c : Char} {request : Request} (v : Option Log.Verbosity)
    (h : Request.ofLetter? c = some request) : request.withVerbosity v = request := by
  unfold Request.ofLetter? at h
  split at h
  · cases h
    rfl
  split at h
  · cases h
    rfl
  · cases h

namespace Arguments

variable {v : Option Log.Verbosity} {a a' : Arguments} {r r' : Reading} {rest : List Text}

/-- Giving an option its value goes the same way with another verbosity, unless the option is the
one that asks for a verbosity and only one of the two has none yet. -/
theorem assign_withVerbosity {setting : Setting} (value : Text)
    (h : setting = .verbosity → a.verbosity.isSome ∧ v.isSome) :
    (a.withVerbosity v).assign setting value =
      (a.assign setting value).map (Arguments.withVerbosity v) := by
  cases setting with
  | config =>
    have hconfig : (a.withVerbosity v).config = a.config := rfl
    simp only [assign, hconfig]
    split
    · rfl
    split <;> rfl
  | verbosity =>
    obtain ⟨ha, hv⟩ := h rfl
    simp only [assign, withVerbosity, ha, hv, if_true, Except.map]

theorem isSome_of_assign {setting : Setting} {value : Text} (h : a.assign setting value = .ok a')
    (ha : a.verbosity.isSome) : a'.verbosity.isSome := by
  cases setting with
  | config =>
    simp only [assign] at h
    split at h
    · cases h
    split at h
    · cases h
    · cases h
      exact ha
  | verbosity =>
    simp only [assign, ha, if_true] at h
    cases h

/-- What is still to be read does not change the verbosity, whether it is the one that has been read
or `v`: either both are there, and another one would be refused, or none is asked for any more. -/
inductive Decided (v : Option Log.Verbosity) (r : Reading) (rest : List Text) : Prop where
  | given (has : r.arguments.verbosity.isSome) (gets : v.isSome)
  | absent (silent : ∀ value, r.pending ≠ some (.verbosity, value))
      (unnamed : NamesNoVerbosity rest)

theorem settle_withVerbosity (h : Decided v r rest) :
    settle (r.withVerbosity v) = (settle r).map (Arguments.withVerbosity v) := by
  obtain ⟨a, pending⟩ := r
  simp only [settle, Reading.withVerbosity]
  match pending, h with
  | none, _ => rfl
  | some (_, none), _ => rfl
  | some (setting, some value), h =>
    apply assign_withVerbosity
    rintro rfl
    cases h with
    | given has gets => exact ⟨has, gets⟩
    | absent silent => exact absurd rfl (silent (some value))

theorem isSome_of_settle (h : settle r = .ok a) (hr : r.arguments.verbosity.isSome) :
    a.verbosity.isSome := by
  obtain ⟨b, pending⟩ := r
  simp only [settle] at h
  match pending, h with
  | none, h =>
    cases h
    exact hr
  | some (_, some value), h => exact isSome_of_assign h hr

theorem Decided.tail {word : Text} (h : Decided v r (word :: rest)) : Decided v r rest := by
  cases h with
  | given has gets => exact .given has gets
  | absent silent unnamed => exact .absent silent unnamed.tail

/-- The option that is named next does not ask for a verbosity, if none asks for one. -/
theorem Decided.named {name word : Text} {value : Option Text} {setting : Setting}
    (h : Decided v r (word :: rest)) (hword : Word.of word = .long name value)
    (hname : Switch.ofName? name = some (.set setting)) (hsettle : settle r = .ok a)
    (next : Option Text) :
    Decided v { arguments := a, pending := some (setting, next) } rest := by
  cases h with
  | given has gets => exact .given (isSome_of_settle hsettle has) gets
  | absent silent unnamed =>
    apply Decided.absent _ unnamed.tail
    intro other hother
    obtain ⟨rfl, rfl⟩ : setting = .verbosity ∧ next = other := by simpa using hother
    obtain rfl := eq_verbosityOption hname
    exact unnamed word List.mem_cons_self value hword

theorem Decided.settled (h : Decided v r rest) (hsettle : settle r = .ok a) :
    Decided v { arguments := a } rest := by
  cases h with
  | given has gets => exact .given (isSome_of_settle hsettle has) gets
  | absent silent unnamed => exact .absent (by simp) unnamed

theorem Decided.valued {setting : Setting} {text : Text} (h : Decided v r rest)
    (hpending : r.pending = some (setting, none)) :
    Decided v { r with pending := some (setting, some text) } rest := by
  cases h with
  | given has gets => exact .given has gets
  | absent silent unnamed =>
    apply Decided.absent _ unnamed
    intro other hother
    obtain ⟨rfl, -⟩ : setting = .verbosity ∧ some text = other := by simpa using hother
    exact silent none hpending

/-- What is read of the rest of the arguments is the same with another verbosity, but for that. -/
theorem parseFrom_withVerbosity (h : Decided v r rest) :
    parseFrom (r.withVerbosity v) rest = (parseFrom r rest).map (Request.withVerbosity v) := by
  -- Each argument leaves readings that differ in the verbosity, and it stays decided.
  induction rest generalizing r with
  | nil =>
    simp only [parseFrom, settle_withVerbosity h]
    cases settle r <;> rfl
  | cons word rest ih =>
    have hsettle := settle_withVerbosity h
    simp only [parseFrom]
    cases hword : Word.of word with
    | noMoreOptions =>
      dsimp only
      split
      · rw [hsettle]
        cases settle r <;> rfl
      · rfl
    | long name value =>
      dsimp only
      cases hname : Switch.ofName? name with
      | none => rfl
      | some switch =>
        cases switch with
        | ask request =>
          cases value with
          | some value => rfl
          | none =>
            dsimp only
            rw [hsettle]
            cases settle r with
            | error e => rfl
            | ok a => exact congrArg Except.ok (withVerbosity_of_ofName? v hname).symm
        | set setting =>
          cases value with
          | none =>
            dsimp only
            rw [hsettle]
            cases hr : settle r with
            | error e => rfl
            | ok a => exact ih (h.named hword hname hr none)
          | some value =>
            dsimp only
            rw [hsettle]
            cases hr : settle r with
            | error e => rfl
            | ok a =>
              have hnext := h.named hword hname hr (some value)
              have hassign : (a.withVerbosity v).assign setting value =
                  (a.assign setting value).map (Arguments.withVerbosity v) :=
                settle_withVerbosity hnext
              simp only [Except.map, hassign]
              cases ha : a.assign setting value with
              | error e => rfl
              | ok a' => exact ih (hnext.settled ha)
    | letters c =>
      dsimp only
      cases hc : Request.ofLetter? c with
      | none => rfl
      | some request =>
        dsimp only
        rw [hsettle]
        cases settle r with
        | error e => rfl
        | ok a => exact congrArg Except.ok (withVerbosity_of_ofLetter? v hc).symm
    | plain text =>
      obtain ⟨a, pending⟩ := r
      match pending with
      | none => rfl
      | some (_, some _) => rfl
      | some (setting, none) => exact ih (h.tail.valued rfl)

/-! ## Another value for the option -/

/-- Where the value of the option that was named last has come, only what comes of it counts. -/
theorem parseFrom_eq_of_settle_eq (h : settle r = settle r')
    (hr : ∀ setting, r.pending ≠ some (setting, none))
    (hr' : ∀ setting, r'.pending ≠ some (setting, none)) (rest : List Text) :
    parseFrom r rest = parseFrom r' rest := by
  cases rest with
  | nil => simp only [parseFrom, h]
  | cons word rest =>
    -- A plain argument is refused on both sides, since by `hr` and `hr'` none is waited for.
    simp only [parseFrom, h]

theorem parseFrom_joined (v : Log.Verbosity) (r : Reading) (rest : List Text) :
    parseFrom r (Spelling.joined.words v ++ rest) =
      match settle r with
      | .error e => .error e
      | .ok a =>
        match a.assign .verbosity v.name with
        | .error e => .error e
        | .ok a => parseFrom { arguments := a } rest := by
  cases hr : settle r with
  | error e =>
    simp only [Spelling.words, List.singleton_append, parseFrom, wordOf_joined,
      ofName?_verbosityOption, hr]
  | ok a =>
    cases ha : a.assign .verbosity v.name <;>
      simp only [Spelling.words, List.singleton_append, parseFrom, wordOf_joined,
        ofName?_verbosityOption, hr, ha]

theorem parseFrom_apart (v : Log.Verbosity) (r : Reading) (rest : List Text) :
    parseFrom r (Spelling.apart.words v ++ rest) =
      match settle r with
      | .error e => .error e
      | .ok a => parseFrom { arguments := a, pending := some (.verbosity, some v.name) } rest := by
  cases hr : settle r <;>
    simp only [Spelling.words, List.cons_append, List.nil_append, parseFrom, wordOf_apart,
      ofName?_verbosityOption, wordOf_name, hr]

/-- Where no verbosity has been asked for yet, the option adds one. -/
theorem parseFrom_words_of_none (s : Spelling) (v : Log.Verbosity) (h : settle r = .ok a)
    (ha : a.verbosity = none) (rest : List Text) :
    parseFrom r (s.words v ++ rest) =
      parseFrom { arguments := a.withVerbosity (some v) } rest := by
  have hassign : a.assign .verbosity v.name = .ok (a.withVerbosity (some v)) := by
    simp [assign, ha, Log.Verbosity.ofName?_name, withVerbosity]
  cases s with
  | joined => simp only [parseFrom_joined, h, hassign]
  | apart =>
    have hsettle : settle { arguments := a, pending := some (.verbosity, some v.name) } =
        settle { arguments := a.withVerbosity (some v) } := hassign
    simp only [parseFrom_apart, h]
    exact parseFrom_eq_of_settle_eq hsettle (by simp) (by simp) rest

/-- Where a verbosity has been asked for already, the option is refused whatever its value, unless
something behind it is refused first. -/
theorem parseFrom_words_of_some (s : Spelling) (v w : Log.Verbosity) (h : settle r = .ok a)
    (ha : a.verbosity.isSome) (rest : List Text) :
    parseFrom r (s.words w ++ rest) =
      (parseFrom r (s.words v ++ rest)).map (Request.withVerbosity (some w)) := by
  have hassign : ∀ u : Log.Verbosity, a.assign .verbosity u.name = .error .conflict := by
    intro u
    simp only [assign, ha, if_true]
  cases s with
  | joined =>
    simp only [parseFrom_joined, h, hassign]
    rfl
  | apart =>
    simp only [parseFrom_apart, h]
    have hsettle : settle { arguments := a, pending := some (.verbosity, some w.name) } =
        settle { arguments := a.withVerbosity (some w),
                 pending := some (.verbosity, some v.name) } := hassign w
    rw [parseFrom_eq_of_settle_eq hsettle (by simp) (by simp)]
    exact parseFrom_withVerbosity (v := some w)
      (r := { arguments := a, pending := some (.verbosity, some v.name) }) (.given ha rfl)

/-- Another value for the option changes nothing else in what is read from there on. -/
theorem parseFrom_words (s : Spelling) (v w : Log.Verbosity) (r : Reading) (rest : List Text) :
    parseFrom r (s.words w ++ rest) =
      (parseFrom r (s.words v ++ rest)).map (Request.withVerbosity (some w)) := by
  cases h : settle r with
  | error e =>
    cases s with
    | joined =>
      simp only [parseFrom_joined, h]
      rfl
    | apart =>
      simp only [parseFrom_apart, h]
      rfl
  | ok a =>
    cases ha : a.verbosity with
    | none =>
      rw [parseFrom_words_of_none s w h ha, parseFrom_words_of_none s v h ha]
      exact parseFrom_withVerbosity (v := some w) (r := { arguments := a.withVerbosity (some v) })
        (.given rfl rfl)
    | some u => exact parseFrom_words_of_some s v w h (Option.isSome_of_eq_some ha) rest

/-- The same, wherever the option stands. -/
theorem parseFrom_append_words (s : Spelling) (v w : Log.Verbosity) (before after : List Text)
    (r : Reading) :
    parseFrom r (before ++ (s.words w ++ after)) =
      (parseFrom r (before ++ (s.words v ++ after))).map (Request.withVerbosity (some w)) := by
  have hmore : ∀ (u : Log.Verbosity) (before : List Text),
      before ++ (s.words u ++ after) ≠ [] := by
    intro u before
    cases s <;> simp [Spelling.words]
  -- Up to the option the same has been read on both sides.
  induction before generalizing r with
  | nil => exact parseFrom_words s v w r after
  | cons word before ih =>
    simp only [List.cons_append, parseFrom, hmore, if_false]
    cases hword : Word.of word with
    | noMoreOptions => rfl
    | long name value =>
      dsimp only
      cases hname : Switch.ofName? name with
      | none => rfl
      | some switch =>
        cases switch with
        | ask request =>
          cases value with
          | some value => rfl
          | none =>
            cases settle r with
            | error e => rfl
            | ok a => exact congrArg Except.ok (withVerbosity_of_ofName? (some w) hname).symm
        | set setting =>
          cases value with
          | none =>
            cases settle r with
            | error e => rfl
            | ok a => exact ih { arguments := a, pending := some (setting, none) }
          | some value =>
            cases settle r with
            | error e => rfl
            | ok a =>
              dsimp only
              cases a.assign setting value with
              | error e => rfl
              | ok a' => exact ih { arguments := a' }
    | letters c =>
      dsimp only
      cases hc : Request.ofLetter? c with
      | none => rfl
      | some request =>
        cases settle r with
        | error e => rfl
        | ok a => exact congrArg Except.ok (withVerbosity_of_ofLetter? (some w) hc).symm
    | plain text =>
      dsimp only
      split
      · next setting hpending => exact ih { r with pending := some (setting, some text) }
      · rfl

/-! ## Whole command lines -/

/-- Another value for the option, wherever it stands, changes the verbosity that is asked for and
nothing else. -/
theorem parse_words (s : Spelling) (v w : Log.Verbosity) (before after : List Text) :
    parse (before ++ s.words w ++ after) =
      (parse (before ++ s.words v ++ after)).map (Request.withVerbosity (some w)) := by
  simp only [parse, List.append_assoc]
  exact parseFrom_append_words s v w before after {}

/-- Arguments that do not name the option ask for no verbosity. -/
theorem verbosity_of_parse {line : List Text} (h : NamesNoVerbosity line)
    (hparse : parse line = .ok (.run a)) : a.verbosity = none := by
  have hwithout : parse line = (parse line).map (Request.withVerbosity none) :=
    parseFrom_withVerbosity (r := {}) (.absent (by simp) h)
  rw [hparse] at hwithout
  have hrun := Request.run.inj (Except.ok.inj hwithout)
  exact congrArg Arguments.verbosity hrun

/-- In front of arguments that do not name the option, it adds a verbosity and nothing else. -/
theorem parse_words_append {line : List Text} (h : NamesNoVerbosity line) (s : Spelling)
    (v : Log.Verbosity) :
    parse (s.words v ++ line) = (parse line).map (Request.withVerbosity (some v)) := by
  have hstart : parse (s.words v ++ line) =
      parseFrom (Reading.withVerbosity (some v) {}) line :=
    parseFrom_words_of_none s v rfl rfl line
  rw [hstart]
  exact parseFrom_withVerbosity (.absent (by simp) h)

end Arguments

end DeviceTwin.Program
