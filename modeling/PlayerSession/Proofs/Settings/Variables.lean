import PlayerSession.Proofs.Json.Reading
import PlayerSession.Settings.Options

/-! Options that the environment alone gives.  Each option has the value of its variable, if every
variable holds a value that its option takes.  The settings of the event store that these options make
are those that the variables make, but for a blank path of the directory, which is a path to the options
and nothing to the variables. -/

namespace PlayerSession

namespace Options

variable {env : Environment} {given given' : Given} {name : OptionName} {value : String}

/-- What an option can have as its value. -/
structure Acceptable (name : OptionName) (value : String) : Prop where
  address : name = .listen → SocketAddress.ofText? value ≠ none
  path : name.isPath → value ≠ ""

theorem accept_eq_ok_iff :
    accept given name value = .ok given' ↔
      given.lookup name = none ∧ Acceptable name value ∧ given' = given ++ [(name, value)] := by
  unfold accept
  split
  · rename_i hGiven
    refine ⟨nofun, fun ⟨hNone, _⟩ => ?_⟩
    rw [hNone] at hGiven
    cases hGiven
  · rename_i hNew
    have hNone : given.lookup name = none := Option.not_isSome_iff_eq_none.mp hNew
    split
    · rename_i hAddress
      exact ⟨nofun, fun h => absurd hAddress.2 (h.2.1.address hAddress.1)⟩
    · rename_i hAddress
      split
      · rename_i hPath
        exact ⟨nofun, fun h => absurd hPath.2 (h.2.1.path hPath.1)⟩
      · rename_i hPath
        have hAcceptable : Acceptable name value := {
          address := fun hListen hBad => hAddress ⟨hListen, hBad⟩
          path := fun hIs hEmpty => hPath ⟨hIs, hEmpty⟩ }
        constructor
        · intro h
          cases h
          exact ⟨hNone, hAcceptable, rfl⟩
        · rintro ⟨-, -, rfl⟩
          rfl

end Options

/-! ### Values from the environment -/

def OptionName.valueIn? (env : Environment) (name : OptionName) : Option String :=
  name.environmentName?.bind env.get?

theorem OptionName.mem_all (name : OptionName) : name ∈ all := by
  cases name <;> decide

namespace Options

variable {env : Environment} {given given' : Given} {name : OptionName} {names : List OptionName}

def valuesIn (env : Environment) (names : List OptionName) : Given :=
  names.filterMap fun name => (name.valueIn? env).map (name, ·)

theorem valuesIn_cons_of_none (h : name.valueIn? env = none) :
    valuesIn env (name :: names) = valuesIn env names := by
  rw [valuesIn, List.filterMap_cons_none]
  · rfl
  · rw [h, Option.map_none]

theorem valuesIn_cons_of_some {value : String} (h : name.valueIn? env = some value) :
    valuesIn env (name :: names) = (name, value) :: valuesIn env names := by
  rw [valuesIn, List.filterMap_cons_some]
  · rfl
  · rw [h, Option.map_some]

theorem lookup_valuesIn (env : Environment) (names : List OptionName) (name : OptionName) :
    (valuesIn env names).lookup name = if name ∈ names then name.valueIn? env else none := by
  induction names with
  | nil => rfl
  | cons first rest ih =>
    cases hValue : first.valueIn? env with
    | none =>
      rw [valuesIn_cons_of_none hValue, ih]
      by_cases hSame : name = first
      · subst hSame
        simp [hValue]
      · simp [hSame]
    | some value =>
      rw [valuesIn_cons_of_some hValue]
      by_cases hSame : name = first
      · subst hSame
        simp [hValue]
      · have hMiss : (name == first) = false := beq_false_of_ne hSame
        simp [List.lookup_cons, hMiss, hSame, ih]

theorem lookup_valuesIn_all (env : Environment) (name : OptionName) :
    (valuesIn env OptionName.all).lookup name = name.valueIn? env := by
  rw [lookup_valuesIn, if_pos name.mem_all]

/-- Takes the variable of an option, unless the option has been given. -/
def takeVariable (env : Environment) (given : Given) (name : OptionName) : Except UsageFault Given :=
  match given.lookup name, name.valueIn? env with
  | none, some value => accept given name value
  | _, _ => .ok given

theorem readVariables_eq_foldlM :
    readVariables env given = OptionName.all.foldlM (takeVariable env) given := rfl

theorem takeVariable_of_none (h : name.valueIn? env = none) :
    takeVariable env given name = .ok given := by
  unfold takeVariable
  rw [h]
  split
  · rename_i hSome
    cases hSome
  · rfl

theorem takeVariable_of_some {value : String} (hNew : given.lookup name = none)
    (h : name.valueIn? env = some value) :
    takeVariable env given name = accept given name value := by
  unfold takeVariable
  rw [h, hNew]

/-- The variables of options that have not been given are taken one after the other, if each of them
can be. -/
theorem foldlM_takeVariable_eq_ok_iff (hDistinct : names.Nodup)
    (hNew : ∀ name ∈ names, given.lookup name = none) :
    names.foldlM (takeVariable env) given = .ok given' ↔
      (∀ name ∈ names, ∀ value ∈ name.valueIn? env, Acceptable name value) ∧
        given' = given ++ valuesIn env names := by
  induction names generalizing given with
  | nil => simp [valuesIn, pure, Except.pure, eq_comm]
  | cons name rest ih =>
    obtain ⟨hAbsent, hDistinct⟩ := List.nodup_cons.mp hDistinct
    obtain ⟨hFirst, hRest⟩ := List.forall_mem_cons.mp hNew
    rw [List.foldlM_cons, List.forall_mem_cons, bind_eq_ok_iff]
    cases hValue : name.valueIn? env with
    | none =>
      rw [takeVariable_of_none hValue, valuesIn_cons_of_none hValue]
      simp [ih hDistinct hRest]
    | some value =>
      have hLater : ∀ name' ∈ rest, (given ++ [(name, value)]).lookup name' = none := by
        intro name' hMem
        have hMiss : (name' == name) = false := by
          refine beq_false_of_ne ?_
          rintro rfl
          exact hAbsent hMem
        rw [List.lookup_append, hRest name' hMem]
        simp [List.lookup_cons, hMiss]
      rw [takeVariable_of_some hFirst hValue, valuesIn_cons_of_some hValue]
      simp [accept_eq_ok_iff, hFirst, ih hDistinct hLater, and_assoc]

/-- Without arguments the options are those of the environment, if their values can be taken. -/
theorem read_nil_eq_ok_iff {o : Options} :
    read [] env = .ok o ↔
      (∀ name : OptionName, ∀ value ∈ name.valueIn? env, Acceptable name value) ∧
        o = ofGiven (valuesIn env OptionName.all) := by
  have hAll : ∀ {given : Given}, readVariables env [] = .ok given ↔
      (∀ name ∈ OptionName.all, ∀ value ∈ name.valueIn? env, Acceptable name value) ∧
        given = valuesIn env OptionName.all := by
    intro given
    rw [readVariables_eq_foldlM]
    exact foldlM_takeVariable_eq_ok_iff (by decide) fun _ _ => rfl
  show (readVariables env []).mapError UsageStop.fault >>= (fun given => .ok (ofGiven given)) = .ok o ↔ _
  rw [bind_eq_ok_iff]
  simp only [mapError_eq_ok_iff, hAll]
  constructor
  · rintro ⟨given, ⟨hAcceptable, rfl⟩, hReturn⟩
    cases hReturn
    exact ⟨fun name => hAcceptable name name.mem_all, rfl⟩
  · rintro ⟨hAcceptable, rfl⟩
    exact ⟨_, ⟨fun name _ => hAcceptable name, rfl⟩, rfl⟩

/-! ### Settings of the event store -/

theorem nonBlank_eq_self_iff {value : Option String} :
    value = nonBlank value ↔ ∀ s ∈ value, ¬ Text.Blank s := by
  cases value with
  | none => simp [nonBlank]
  | some s => by_cases hBlank : Text.Blank s <;> simp [nonBlank, Option.filter, hBlank]

/-- The settings of the options are those of the variables, but for the directory, which is taken as it
is. -/
theorem storeSettings_valuesIn (env : Environment) :
    (ofGiven (valuesIn env OptionName.all)).storeSettings =
      { StoreSettings.ofVariables env with dataDirectory := env.get? "EVENTS_DIR" } := by
  unfold ofGiven storeSettings StoreSettings.ofVariables
  simp only [lookup_valuesIn_all]
  rfl

theorem storeSettings_eq_iff :
    (ofGiven (valuesIn env OptionName.all)).storeSettings = .ofVariables env ↔
      ∀ directory ∈ env.get? "EVENTS_DIR", ¬ Text.Blank directory := by
  rw [storeSettings_valuesIn, ← nonBlank_eq_self_iff]
  simp [StoreSettings.ofVariables]

theorem acceptable_values_iff :
    (∀ name : OptionName, ∀ value ∈ name.valueIn? env, Acceptable name value) ↔
      (∀ address ∈ env.get? "LISTEN_ADDR", SocketAddress.ofText? address ≠ none) ∧
        ∀ directory ∈ env.get? "EVENTS_DIR", directory ≠ "" := by
  constructor
  · intro h
    exact ⟨fun address hAddress => (h .listen address hAddress).address rfl,
      fun directory hDirectory => (h .eventsDirectory directory hDirectory).path rfl⟩
  · rintro ⟨hListen, hDirectory⟩ name value hValue
    cases name with
    | listen => exact ⟨fun _ => hListen value hValue, nofun⟩
    | eventsDirectory => exact ⟨nofun, fun _ => hDirectory value hValue⟩
    | backend | tableName => exact ⟨nofun, nofun⟩
    | grammar | tlsCertificate | tlsKey => cases hValue

/-- Without arguments the program has options, and they set the event store as the variables do, exactly
when an address to listen on is one and a directory for the events is not blank. -/
theorem read_nil_agrees_iff (env : Environment) :
    (∃ o, read [] env = .ok o ∧ o.storeSettings = .ofVariables env) ↔
      (∀ address ∈ env.get? "LISTEN_ADDR", SocketAddress.ofText? address ≠ none) ∧
        ∀ directory ∈ env.get? "EVENTS_DIR", ¬ Text.Blank directory := by
  constructor
  · rintro ⟨o, hRead, hSettings⟩
    obtain ⟨hAcceptable, rfl⟩ := read_nil_eq_ok_iff.mp hRead
    exact ⟨(acceptable_values_iff.mp hAcceptable).1, storeSettings_eq_iff.mp hSettings⟩
  · rintro ⟨hListen, hDirectory⟩
    have hNonempty : ∀ directory ∈ env.get? "EVENTS_DIR", directory ≠ "" := by
      rintro directory hMem rfl
      exact hDirectory "" hMem (by decide)
    have hAcceptable := acceptable_values_iff.mpr ⟨hListen, hNonempty⟩
    exact ⟨_, read_nil_eq_ok_iff.mpr ⟨hAcceptable, rfl⟩, storeSettings_eq_iff.mpr hDirectory⟩

/-- A blank path is a directory to the options and none to the variables, and an empty one ends the
program. -/
theorem blank_directory_disagrees :
    (¬ ∃ o, read [] [("EVENTS_DIR", " ")] = .ok o ∧
        o.storeSettings = .ofVariables [("EVENTS_DIR", " ")]) ∧
      read [] [("EVENTS_DIR", "")] = .error (.fault .missingValue) := by
  constructor
  · rintro ⟨o, hRead, hSettings⟩
    obtain ⟨-, rfl⟩ := read_nil_eq_ok_iff.mp hRead
    exact storeSettings_eq_iff.mp hSettings " " rfl (by decide)
  · rfl

end Options

end PlayerSession
