import PlayerSession.Http.Host
import PlayerSession.Proofs.Text.Line
import PlayerSession.Proofs.Text.Pieces

/-! The host of a request and its table.  Of a host only white space around it and a port are left out: a
text is cut at a colon exactly when the colon is the only one, something stands before it and nothing but
digits behind it.  So hosts with ports lead to one table exactly when their names are equal. -/

namespace PlayerSession.Http

variable {text name port : List Char} {host : String}

/-! ### Ports -/

/-- The text is a name and, behind a colon, a port. -/
structure Cut (text name port : List Char) : Prop where
  eq : text = name ++ ':' :: port
  nonempty : name ≠ []
  colon : ':' ∉ name
  digits : ∀ c ∈ port, c.isDigit

/-- There is no port in the text. -/
inductive KeptWhole (text : List Char) : Prop
  | noColon : ':' ∉ text → KeptWhole text
  | severalColons : 2 ≤ text.count ':' → KeptWhole text
  | otherThanDigit {front back : List Char} {c : Char} : text = front ++ ':' :: back → c ∈ back →
      ¬ c.isDigit → KeptWhole text
  | nothingBefore {back : List Char} : text = ':' :: back → KeptWhole text

theorem Cut.colon_port (h : Cut text name port) : ':' ∉ port := fun hMem =>
  absurd (h.digits ':' hMem) (by decide)

theorem Cut.pieces (h : Cut text name port) : Text.pieces ':' text = [name, port] := by
  rw [h.eq, Text.pieces_append_cons, Text.pieces_of_not_mem h.colon,
    Text.pieces_of_not_mem h.colon_port]
  rfl

theorem Cut.not_keptWhole (h : Cut text name port) : ¬ KeptWhole text := by
  intro hKept
  cases hKept with
  | noColon hNone => exact hNone (h.eq ▸ List.mem_append_right name List.mem_cons_self)
  | severalColons hCount =>
    have hLength := Text.length_pieces ':' text
    rw [h.pieces] at hLength
    simp only [List.length_cons, List.length_nil] at hLength
    omega
  | otherThanDigit hEq hMem hOther =>
    -- both cut the text at its one colon
    rcases List.append_eq_append_iff.mp (h.eq.symm.trans hEq) with ⟨as, hFront, hBack⟩ | ⟨as, hName, hPort⟩
    · cases as with
      | nil =>
        cases hBack
        exact hOther (h.digits _ hMem)
      | cons a as =>
        obtain ⟨-, rfl⟩ := List.cons_eq_cons.mp hBack
        exact h.colon_port (List.mem_append_right as List.mem_cons_self)
    · cases as with
      | nil =>
        cases hPort
        exact hOther (h.digits _ hMem)
      | cons a as =>
        obtain ⟨rfl, -⟩ := List.cons_eq_cons.mp hPort
        exact h.colon (hName ▸ List.mem_append_right _ List.mem_cons_self)
  | nothingBefore hEq =>
    obtain ⟨a, rest, rfl⟩ := List.exists_cons_of_ne_nil h.nonempty
    obtain ⟨rfl, -⟩ := List.cons_eq_cons.mp (h.eq.symm.trans hEq)
    exact h.colon List.mem_cons_self

/-- A text without a port is kept whole, and any other is cut into a name and a port. -/
theorem keptWhole_or_cut (text : List Char) : KeptWhole text ∨ ∃ name port, Cut text name port := by
  by_cases hMem : ':' ∈ text
  · obtain ⟨name, port, hEq, hColon⟩ := List.eq_append_cons_of_mem hMem
    by_cases hDigits : ∀ c ∈ port, c.isDigit
    · cases name with
      | nil => exact .inl (.nothingBefore hEq)
      | cons a rest => exact .inr ⟨a :: rest, port, hEq, List.cons_ne_nil a rest, hColon, hDigits⟩
    · push Not at hDigits
      obtain ⟨c, hIn, hOther⟩ := hDigits
      exact .inl (.otherThanDigit hEq hIn hOther)
  · exact .inl (.noColon hMem)

theorem withoutPort_of_cut (h : Cut host.toList name port) : withoutPort host = String.ofList name := by
  have hAll : port.all Char.isDigit := List.all_eq_true.mpr h.digits
  rw [withoutPort, h.pieces]
  exact if_pos ⟨h.nonempty, hAll⟩

theorem withoutPort_of_keptWhole (h : KeptWhole host.toList) : withoutPort host = host := by
  unfold withoutPort
  split
  · rename_i name port hPieces
    refine if_neg fun ⟨hNonempty, hAll⟩ => ?_
    have hEq : host.toList = name ++ ':' :: port := by
      rw [← Text.intercalate_pieces ':' host.toList, hPieces]
      simp
    have hColon : ':' ∉ name := Text.not_mem_of_mem_pieces (hPieces ▸ List.mem_cons_self)
    exact Cut.not_keptWhole ⟨hEq, hNonempty, hColon, List.all_eq_true.mp hAll⟩ h
  · rfl

/-! ### Tables -/

theorem tableForHost_of_ne (h : withoutPort (Text.trim host) ≠ "") :
    tableForHost (some host) = "epas_" ++ withoutPort (Text.trim host) := by
  simp [tableForHost, Option.filter, h]

theorem tableForHost_of_blank (h : Text.Blank host) : tableForHost (some host) = "epas_unknown" := by
  have hEmpty : withoutPort "" = "" := by decide +kernel
  simp [tableForHost, Text.trim_of_blank h, hEmpty, Option.filter]

theorem tableForHost_of_cut (h : Cut (Text.trim host).toList name port) :
    tableForHost (some host) = "epas_" ++ String.ofList name := by
  have hNe : String.ofList name ≠ "" := fun hEmpty =>
    h.nonempty (String.ofList_eq_empty_iff.mp hEmpty)
  have hWithout := withoutPort_of_cut h
  rw [tableForHost_of_ne (hWithout ▸ hNe), hWithout]

theorem tableForHost_of_keptWhole (hSome : ¬ Text.Blank host)
    (h : KeptWhole (Text.trim host).toList) :
    tableForHost (some host) = "epas_" ++ Text.trim host := by
  have hWithout := withoutPort_of_keptWhole h
  have hNe : withoutPort (Text.trim host) ≠ "" := by
    rw [hWithout]
    exact fun hEmpty => hSome (Text.trim_eq_empty_iff.mp hEmpty)
  rw [tableForHost_of_ne hNe, hWithout]

/-- Of a host that is not blank the table has the whole text exactly when there is no port in it. -/
theorem tableForHost_eq_whole_iff (hSome : ¬ Text.Blank host) :
    tableForHost (some host) = "epas_" ++ Text.trim host ↔ KeptWhole (Text.trim host).toList := by
  refine ⟨fun hWhole => ?_, tableForHost_of_keptWhole hSome⟩
  rcases keptWhole_or_cut (Text.trim host).toList with hKept | ⟨name, port, hCut⟩
  · exact hKept
  · rw [tableForHost_of_cut hCut, String.append_right_inj] at hWhole
    have hLength := congrArg List.length hCut.eq
    rw [← hWhole, String.toList_ofList, List.length_append, List.length_cons] at hLength
    omega

/-! ### Hosts with names -/

/-- The name of a host: some text without a colon, with no white space at its ends. -/
structure HostName (name : String) : Prop where
  nonempty : name ≠ ""
  colon : ':' ∉ name.toList
  first : ∀ c ∈ name.toList.head?, Text.isBlank c = false
  last : ∀ c ∈ name.toList.getLast?, Text.isBlank c = false

instance (name : String) : Decidable (HostName name) :=
  decidable_of_iff (name ≠ "" ∧ ':' ∉ name.toList ∧ name.toList.head?.all (!Text.isBlank ·) ∧
      name.toList.getLast?.all (!Text.isBlank ·)) <| by
    simp only [Option.all_eq_true, Bool.not_eq_true']
    exact ⟨fun ⟨hNonempty, hColon, hFirst, hLast⟩ => ⟨hNonempty, hColon, hFirst, hLast⟩,
      fun h => ⟨h.nonempty, h.colon, h.first, h.last⟩⟩

/-- A host is given by a name with a port behind a colon, be it an empty one, and white space around. -/
inductive GivenBy (name : String) : String → Prop
  | intro {left port right : String} : HostName name → Text.Blank left → Text.Blank right →
      (∀ c ∈ port.toList, c.isDigit) → GivenBy name (left ++ name ++ ":" ++ port ++ right)

namespace GivenBy

variable {other : String}

theorem hostName {name : String} (h : GivenBy name host) : HostName name := by
  cases h with
  | intro hName => exact hName

/-- What is left of a host without the white space around it is its name and its port. -/
theorem cut_trim {name : String} (h : GivenBy name host) :
    ∃ port, Cut (Text.trim host).toList name.toList port := by
  cases h with
  | @intro left port right hName hLeft hRight hDigits =>
    have hPadded : left ++ name ++ ":" ++ port ++ right = left ++ (name ++ ":" ++ port) ++ right := by
      simp only [String.append_assoc]
    have hList : (name ++ ":" ++ port).toList = name.toList ++ ':' :: port.toList := by
      rw [String.toList_append, String.toList_append, List.append_assoc]
      rfl
    have hNonempty : name.toList ≠ [] := fun hNil => hName.nonempty (String.toList_eq_nil_iff.mp hNil)
    have hFirst : ∀ c ∈ (name ++ ":" ++ port).toList.head?, Text.isBlank c = false := by
      rw [hList, List.head?_append_of_ne_nil _ hNonempty]
      exact hName.first
    have hLast : ∀ c ∈ (name ++ ":" ++ port).toList.getLast?, Text.isBlank c = false := by
      intro c hIn
      rw [hList, List.getLast?_append_of_ne_nil _ (List.cons_ne_nil ':' _)] at hIn
      rcases List.mem_cons.mp (List.mem_of_getLast? hIn) with rfl | hPort
      · decide
      · exact Text.isBlank_eq_false_of_isDigit (hDigits c hPort)
    rw [hPadded, Text.trim_of_padded hLeft hRight hFirst hLast]
    exact ⟨port.toList, hList, hNonempty, hName.colon, hDigits⟩

theorem tableForHost_eq {name : String} (h : GivenBy name host) :
    tableForHost (some host) = "epas_" ++ name := by
  obtain ⟨port, hCut⟩ := h.cut_trim
  rw [tableForHost_of_cut hCut, String.ofList_toList]

end GivenBy

theorem HostName.tableForHost_eq {name : String} (h : HostName name) :
    tableForHost (some name) = "epas_" ++ name := by
  have hNone : Text.Blank "" := by decide
  have hTrim : Text.trim ("" ++ name ++ "") = name := Text.trim_of_padded hNone hNone h.first h.last
  rw [String.empty_append, String.append_empty] at hTrim
  have hSome : ¬ Text.Blank name := fun hBlank => h.nonempty (hTrim ▸ Text.trim_of_blank hBlank)
  rw [tableForHost_of_keptWhole hSome (.noColon (hTrim.symm ▸ h.colon)), hTrim]

/-- A host that is given by a name leads to the table of the name, whatever its port and the white space
around it, and hosts that are given by names lead to one table exactly when the names are equal.  Any host
that is not blank has its whole text in the name of its table exactly when there is no port in the text,
and without a host, or with a blank one, the table is that of `unknown`. -/
theorem tableForHost_ignores_port :
    (∀ name host, GivenBy name host →
      tableForHost (some host) = tableForHost (some name) ∧
        tableForHost (some name) = "epas_" ++ name) ∧
    (∀ host, ¬ Text.Blank host →
      (tableForHost (some host) = "epas_" ++ Text.trim host ↔ KeptWhole (Text.trim host).toList)) ∧
    tableForHost none = "epas_unknown" ∧
    (∀ host, Text.Blank host → tableForHost (some host) = "epas_unknown") ∧
    ∀ name host name' host', GivenBy name host → GivenBy name' host' →
      (tableForHost (some host) = tableForHost (some host') ↔ name = name') := by
  refine ⟨fun name host hGiven => ⟨?_, hGiven.hostName.tableForHost_eq⟩,
    fun host hSome => tableForHost_eq_whole_iff hSome, rfl, fun host hBlank =>
    tableForHost_of_blank hBlank, fun name host name' host' hGiven hGiven' => ?_⟩
  · rw [hGiven.tableForHost_eq, hGiven.hostName.tableForHost_eq]
  · rw [hGiven.tableForHost_eq, hGiven'.tableForHost_eq, String.append_right_inj]

/-- One host twice, with white space and without a number behind the colon, another host, an address that
is no name with a port, and a blank host. -/
theorem tableForHost_of_mock :
    GivenBy "mock.tv" "\t mock.tv:3001 " ∧ GivenBy "mock.tv" "mock.tv:" ∧ GivenBy "spec.tv" "spec.tv:80" ∧
      tableForHost (some "\t mock.tv:3001 ") = tableForHost (some "mock.tv:") ∧
      tableForHost (some "mock.tv:") ≠ tableForHost (some "spec.tv:80") ∧
      tableForHost (some "mock.tv") = "epas_mock.tv" ∧
      tableForHost (some " [::1]:3001") = "epas_" ++ Text.trim " [::1]:3001" ∧
      tableForHost (some " \t") = "epas_unknown" := by
  obtain ⟨hName, hWhole, -, hBlank, hSame⟩ := tableForHost_ignores_port
  have hNone : Text.Blank "" := by decide
  have hMock : HostName "mock.tv" := by decide +kernel
  have hSpec : HostName "spec.tv" := by decide +kernel
  have hPadded : GivenBy "mock.tv" ("\t " ++ "mock.tv" ++ ":" ++ "3001" ++ " ") :=
    .intro hMock (by decide +kernel) (by decide +kernel) (List.all_eq_true.mp (by decide))
  have hOpen : GivenBy "mock.tv" ("" ++ "mock.tv" ++ ":" ++ "" ++ "") :=
    .intro hMock hNone hNone (List.all_eq_true.mp (by decide))
  have hOther : GivenBy "spec.tv" ("" ++ "spec.tv" ++ ":" ++ "80" ++ "") :=
    .intro hSpec hNone hNone (List.all_eq_true.mp (by decide))
  have hAddress : KeptWhole (Text.trim " [::1]:3001").toList := .severalColons (by decide +kernel)
  refine ⟨hPadded, hOpen, hOther, ?_, ?_, (hName _ _ hOpen).2, ?_, ?_⟩
  · exact (hSame _ _ _ _ hPadded hOpen).mpr rfl
  · exact fun hTables => absurd ((hSame _ _ _ _ hOpen hOther).mp hTables) (by decide)
  · exact (hWhole " [::1]:3001" (by decide +kernel)).mpr hAddress
  · exact hBlank " \t" (by decide +kernel)

end PlayerSession.Http
