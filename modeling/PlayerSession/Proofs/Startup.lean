import PlayerSession.Proofs.Json.Reading
import PlayerSession.Startup

/-! What the program says when the service does not start.  The help, the complaint about arguments and
the fault of a grammar file that is no description are told in words of the readers of options and of
JSON.  `exit_settled` says that everything else is settled without them: a store is opened without any
record being read, so no report has a reader's words for a record. -/

namespace PlayerSession

/-! ### Opening a store -/

section Opening

variable (s : StoreSettings) (env : Environment) (accountHome : Option String) (d : Disk) (line : Nat)
  (fault : Json.Fault)

theorem DirectoryStore.create_ne_malformed (base : String) :
    create d base ≠ .error (.malformed line fault) := by
  intro h
  rcases bind_eq_error_iff.mp h with hMake | ⟨made, -, hReturn⟩
  · exact mapError_ne_error nofun hMake
  · cases hReturn

theorem StoreSettings.directory_ne_malformed :
    s.directory env accountHome ≠ .error (.malformed line fault) := by
  unfold directory
  split
  · nofun
  · split <;> nofun

/-- Opening a store reads no records. -/
theorem StoreSettings.openLookup_ne_malformed :
    s.openLookup env accountHome d ≠ .error (.malformed line fault) := by
  intro h
  rcases bind_eq_error_iff.mp h with hOpen | ⟨opened, -, hReturn⟩
  · unfold openStore at hOpen
    split at hOpen
    · cases hOpen
    rcases bind_eq_error_iff.mp hOpen with hDirectory | ⟨base, -, hOpen⟩
    · exact s.directory_ne_malformed env accountHome line fault hDirectory
    rcases bind_eq_error_iff.mp hOpen with hCreate | ⟨created, -, hReturn⟩
    · exact DirectoryStore.create_ne_malformed d line fault base hCreate
    · cases hReturn
  · cases hReturn

end Opening

/-! ### The end of the program -/

namespace Startup

variable {arguments : List String} {env : Environment} {accountHome : Option String} {d : Disk}
  {fault : Fault}

/-- The program ends with words of a reader of options or of JSON. -/
inductive Fault.Quotes : Fault → Prop
  | help : Quotes (.usage .help)
  | usage (reason : UsageFault) : Quotes (.usage (.fault reason))
  | grammar (path : String) (reason : Json.Fault) : Quotes (.grammar (.malformed path reason))

theorem checkTls_ne_store (d : Disk) (files : TlsFiles) (reason : StoreFault) :
    checkTls d files ≠ .error (.store reason) := by
  intro h
  rcases bind_eq_error_iff.mp h with hCertificates | ⟨certificates, -, h⟩
  · exact mapError_ne_error nofun hCertificates
  rcases bind_eq_error_iff.mp h with hKey | ⟨key, -, h⟩
  · exact mapError_ne_error nofun hKey
  · exact mapError_ne_error nofun h

theorem exists_openLookup_of_start {reason : StoreFault}
    (h : start arguments env accountHome d = .error (.store reason)) :
    ∃ settings : StoreSettings, settings.openLookup env accountHome d = .error reason := by
  rcases bind_eq_error_iff.mp h with hOptions | ⟨options, -, h⟩
  · exact absurd hOptions (mapError_ne_error nofun)
  rcases bind_eq_error_iff.mp h with hLoad | ⟨grammar, -, h⟩
  · exact absurd hLoad (mapError_ne_error nofun)
  rcases bind_eq_error_iff.mp h with hOpen | ⟨opened, -, h⟩
  · obtain ⟨reason', hFault, hStore⟩ := mapError_eq_error_iff.mp hOpen
    cases hStore
    exact ⟨_, hFault⟩
  rcases bind_eq_error_iff.mp h with hFiles | ⟨tls, -, h⟩
  · unfold tlsFiles at hFiles
    split at hFiles <;> cases hFiles
  cases tls with
  | none => cases h
  | some files =>
    rcases bind_eq_error_iff.mp h with hCheck | ⟨checked, -, hReturn⟩
    · exact absurd hCheck (checkTls_ne_store _ files reason)
    · cases hReturn

/-- Unless the program has to quote a reader, its end does not depend on what the readers say. -/
theorem exit_settled (h : start arguments env accountHome d = .error fault) (hOwn : ¬ fault.Quotes)
    (prose prose' : Prose) : fault.exit env prose = fault.exit env prose' := by
  cases fault with
  | usage stop =>
    cases stop with
    | help => exact absurd .help hOwn
    | version => rfl
    | fault reason => exact absurd (.usage reason) hOwn
  | grammar file =>
    cases file with
    | malformed path reason => exact absurd (.grammar path reason) hOwn
    | unreadable | defective => rfl
  | store reason =>
    cases reason with
    | malformed line record =>
      obtain ⟨settings, hOpen⟩ := exists_openLookup_of_start h
      exact absurd hOpen (settings.openLookup_ne_malformed env accountHome d line record)
    | tableNotFound | invalidTableName | disk | unsupportedBackend | noDataDirectory | other => rfl
  | oneTlsFile | unreadableTlsFile | tls => rfl

end Startup

end PlayerSession
