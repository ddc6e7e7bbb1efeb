import QuestionBoard.Proofs.Action.Keeps
import QuestionBoard.Proofs.Field.Reader
import QuestionBoard.Settings.Loader

/-!
What loading settings comes to, apart from the lines in the log. The files that are named are read one
after another, up to the first that is refused; of all that were read, the settings are made.
-/

namespace QuestionBoard

variable {α β : Type}

section Except

variable {ε : Type} {failure : ε} {first : Except ε α}

/-- Steps that fail have one that fails after others that do not. -/
theorem error_of_bind {next : α → Except ε β} (h : first >>= next = .error failure) :
    first = .error failure ∨ ∃ value, first = .ok value ∧ next value = .error failure := by
  cases first with
  | error f => exact Or.inl (congrArg Except.error (Except.error.inj h))
  | ok value => exact Or.inr ⟨value, rfl, h⟩

theorem error_of_map {f : α → β} (h : first.map f = .error failure) : first = .error failure := by
  cases first with
  | error f => exact congrArg Except.error (Except.error.inj h)
  | ok value => cases h

theorem error_of_mapError {ε' : Type} {g : ε' → ε} {result : Except ε' α}
    (h : result.mapError g = .error failure) : ∃ e, result = .error e ∧ g e = failure := by
  cases result with
  | error e => exact ⟨e, rfl, Except.error.inj h⟩
  | ok value => cases h

theorem ok_of_bind {next : α → Except ε β} {value : β} (h : first >>= next = .ok value) :
    ∃ found, first = .ok found ∧ next found = .ok value := by
  cases first with
  | error f => cases h
  | ok found => exact ⟨found, rfl, h⟩

theorem ok_of_map {f : α → β} {value : β} (h : first.map f = .ok value) :
    ∃ found, first = .ok found ∧ f found = value := by
  cases first with
  | error f => cases h
  | ok found => exact ⟨found, rfl, Except.ok.inj h⟩

theorem ok_of_mapError {ε' : Type} {g : ε → ε'} {value : α} (h : first.mapError g = .ok value) :
    first = .ok value := by
  cases first with
  | error f => cases h
  | ok found => exact congrArg Except.ok (Except.ok.inj h)

end Except

/-! ### One after another -/

theorem mapM_cons_eq_error_iff {ε : Type} {f : α → Except ε β} {first : α} {rest : List α} {e : ε} :
    (first :: rest).mapM f = .error e ↔
      f first = .error e ∨ ∃ value, f first = .ok value ∧ rest.mapM f = .error e := by
  rw [List.mapM_cons]
  cases f first with
  | error e' =>
      refine ⟨fun h => Or.inl (congrArg Except.error (Except.error.inj h)), ?_⟩
      rintro (h | ⟨_, h, _⟩)
      · exact congrArg Except.error (Except.error.inj h)
      · cases h
  | ok value =>
      cases rest.mapM f with
      | error e' =>
          refine ⟨fun h => Or.inr ⟨value, rfl, congrArg Except.error (Except.error.inj h)⟩, ?_⟩
          rintro (h | ⟨_, _, h⟩)
          · cases h
          · exact congrArg Except.error (Except.error.inj h)
      | ok others => exact ⟨fun h => (nomatch h), fun h => h.elim (nomatch ·) fun ⟨_, _, h⟩ => (nomatch h)⟩

theorem mapM_eq_error_iff {ε : Type} {f : α → Except ε β} {items : List α} {e : ε} :
    items.mapM f = .error e ↔ ∃ before item after, items = before ++ item :: after ∧
      (∀ other ∈ before, ∃ value, f other = .ok value) ∧ f item = .error e := by
  induction items with
  | nil =>
      refine ⟨fun h => (nomatch h), fun ⟨before, item, after, h, _⟩ => ?_⟩
      exact absurd h.symm (List.append_ne_nil_of_right_ne_nil before (List.cons_ne_nil item after))
  | cons first rest ih =>
      rw [mapM_cons_eq_error_iff, ih]
      constructor
      · rintro (hfirst | ⟨value, hfirst, before, item, after, rfl, hbefore, hitem⟩)
        · exact ⟨[], first, rest, rfl, by simp, hfirst⟩
        · exact ⟨first :: before, item, after, rfl, List.forall_mem_cons.mpr ⟨⟨value, hfirst⟩, hbefore⟩, hitem⟩
      · rintro ⟨_ | ⟨other, before⟩, item, after, h, hbefore, hitem⟩
        · obtain ⟨rfl, -⟩ := List.cons.inj h
          exact Or.inl hitem
        · obtain ⟨rfl, rfl⟩ := List.cons.inj h
          obtain ⟨⟨value, hfirst⟩, hbefore⟩ := List.forall_mem_cons.mp hbefore
          exact Or.inr ⟨value, hfirst, before, item, after, rfl, hbefore, hitem⟩

theorem mapM_cons_eq_ok_iff {ε : Type} {f : α → Except ε β} {first : α} {rest : List α} {values : List β} :
    (first :: rest).mapM f = .ok values ↔
      ∃ value others, f first = .ok value ∧ rest.mapM f = .ok others ∧ values = value :: others := by
  rw [List.mapM_cons]
  cases f first with
  | error e => exact ⟨fun h => (nomatch h), fun ⟨_, _, h, _⟩ => (nomatch h)⟩
  | ok value =>
      cases rest.mapM f with
      | error e => exact ⟨fun h => (nomatch h), fun ⟨_, _, _, h, _⟩ => (nomatch h)⟩
      | ok others =>
          refine ⟨fun h => ⟨value, others, rfl, rfl, (Except.ok.inj h).symm⟩, ?_⟩
          rintro ⟨value', others', hvalue, hothers, rfl⟩
          rw [← Except.ok.inj hvalue, ← Except.ok.inj hothers]
          rfl

theorem exists_mapM_eq_ok_iff {ε : Type} {f : α → Except ε β} {items : List α} :
    (∃ values, items.mapM f = .ok values) ↔ ∀ item ∈ items, ∃ value, f item = .ok value := by
  induction items with
  | nil => exact ⟨fun _ => by simp, fun _ => ⟨[], rfl⟩⟩
  | cons first rest ih =>
      rw [List.forall_mem_cons, ← ih]
      constructor
      · intro ⟨values, h⟩
        obtain ⟨value, others, hfirst, hrest, -⟩ := mapM_cons_eq_ok_iff.mp h
        exact ⟨⟨value, hfirst⟩, others, hrest⟩
      · intro ⟨⟨value, hfirst⟩, others, hrest⟩
        exact ⟨value :: others, mapM_cons_eq_ok_iff.mpr ⟨value, others, hfirst, hrest, rfl⟩⟩

theorem mem_of_mapM_eq_ok {ε : Type} {f : α → Except ε β} {items : List α} {values : List β}
    (h : items.mapM f = .ok values) {value : β} : value ∈ values ↔ ∃ item ∈ items, f item = .ok value := by
  induction items generalizing values with
  | nil =>
      rw [← Except.ok.inj h]
      simp
  | cons first rest ih =>
      obtain ⟨value', others, hfirst, hrest, rfl⟩ := mapM_cons_eq_ok_iff.mp h
      simp only [List.mem_cons, exists_eq_or_imp, ih hrest, hfirst, Except.ok.injEq]
      exact or_congr_left eq_comm

namespace Action

/-- Whether a step comes to a result, whatever was written before. -/
def Yields (a : Action Unit α) (result : Except Failure α) : Prop :=
  ∀ j, (a.outcome () j).result = result

variable {a : Action Unit α} {result : Except Failure α}

theorem Yields.bind {next : α → Action Unit β} {last : α → Except Failure β} (h : a.Yields result)
    (hnext : ∀ value, (next value).Yields (last value)) : (a >>= next).Yields (result >>= last) := by
  intro j
  have hresult := h j
  rw [outcome_bind]
  revert hresult
  obtain ⟨result', _, j'⟩ := a.outcome () j
  rintro rfl
  cases result' with
  | error f => rfl
  | ok value => exact hnext value j'

theorem yields_pure (value : α) : (pure value : Action Unit α).Yields (.ok value) := fun _ => rfl

theorem yields_throw (f : Failure) : (throw f : Action Unit α).Yields (.error f) := fun _ => rfl

theorem yields_ofExcept (result : Except Failure α) : (ofExcept result).Yields result := fun _ => rfl

/-- A line in the log changes no result. -/
theorem Yields.log_bind (level : Log.Level) (logger message : String) (h : a.Yields result) :
    (do Action.log level logger message; a : Action Unit α).Yields result := by
  intro j
  rw [outcome_bind, outcome_log, andThen_ok]
  exact h _

theorem yields_mapM {f : α → Action Unit β} {g : α → Except Failure β}
    (h : ∀ item, (f item).Yields (g item)) (items : List α) : (items.mapM f).Yields (items.mapM g) := by
  induction items with
  | nil => exact yields_pure []
  | cons item rest ih =>
      rw [List.mapM_cons, List.mapM_cons]
      exact (h item).bind fun value => ih.bind fun values => yields_pure _

end Action

namespace SettingsSources

variable (s : SettingsSources)

/-- The files at a path, or at the paths that a pattern finds. -/
def filesAt (path : String) : List String :=
  if Glob.isPattern path then (Glob.expand s.files path).map Path.normal else [Path.normal path]

/-- The files that are named, in the order in which they are read. -/
def namedFiles (given : Option (List String)) : List String := (s.paths given).flatMap s.filesAt

/-- The mapping in a file. -/
def content (path : String) : Except Failure (Option Yaml) :=
  match s.files.entryAt (Path.names path) with
  | .absent | .belowFile => .ok none
  | .directory => .error (FileTree.notFile path)
  | .file text => s.mappingIn path text

theorem yields_expand (path : String) : (s.expand path).Yields (.ok (s.filesAt path)) := by
  unfold expand filesAt
  split
  · dsimp only
    split
    · exact (Action.yields_pure _).log_bind _ _ _
    · exact Action.yields_pure _
  · exact Action.yields_pure _

theorem yields_readFile (path : String) : (s.readFile path).Yields (s.content path) := by
  unfold readFile content
  generalize s.files.entryAt (Path.names path) = entry
  cases entry with
  | absent => exact (Action.yields_pure _).log_bind _ _ _
  | belowFile => exact (Action.yields_pure _).log_bind _ _ _
  | directory => exact Action.yields_throw _
  | file text =>
      dsimp only
      generalize s.mappingIn path text = found
      obtain f | _ | mapping := found
      · exact fun _ => rfl
      · exact fun _ => rfl
      · exact (Action.yields_pure _).log_bind _ _ _

theorem yields_documents (paths : List String) : (s.documents paths).Yields
    (((paths.flatMap s.filesAt).mapM s.content).map fun found => found.filterMap id) := by
  have hexpand : (paths.mapM s.expand).Yields (.ok (paths.map s.filesAt)) := by
    have h := Action.yields_mapM s.yields_expand paths
    have hall : (paths.mapM fun path => (.ok (s.filesAt path) : Except Failure _)) = .ok (paths.map s.filesAt) :=
      List.mapM_pure
    rwa [hall] at h
  have hread := fun files : List (List String) =>
    (Action.yields_mapM s.yields_readFile files.flatten).bind fun found =>
      Action.yields_pure (found.filterMap id)
  intro j
  rw [List.flatMap]
  exact hexpand.bind hread j

/-- What loading comes to: the files are read, and the settings made of what is in them. -/
theorem yields_load (given : Option (List String)) : (s.load given).Yields (do
    let found ← (s.namedFiles given).mapM s.content
    s.settings (found.filterMap id)) := by
  have h := (s.yields_documents (s.paths given)).bind fun documents =>
    Action.yields_ofExcept (s.settings documents)
  have hread : (((s.namedFiles given).mapM s.content).map (List.filterMap id) >>= fun documents =>
      s.settings documents) = (do
        let found ← (s.namedFiles given).mapM s.content
        s.settings (found.filterMap id)) := by
    cases (s.namedFiles given).mapM s.content <;> rfl
  intro j
  rw [← hread]
  exact h j

variable {s}

/-- Settings are made of documents by reading the data that these and the environment make. -/
theorem settings_eq_ok_iff {documents : List Yaml} {settings : Settings} :
    s.settings documents = .ok settings ↔ documents.any Yaml.hasOtherKeys = false ∧
      ∃ data, s.merged (Json.layered (documents.map Yaml.toJson)) = .ok data ∧
        Settings.ofData data = .valid settings := by
  unfold SettingsSources.settings
  cases documents.any Yaml.hasOtherKeys with
  | true => exact ⟨fun h => (nomatch h), fun h => (nomatch h.1)⟩
  | false =>
      cases s.merged (Json.layered (documents.map Yaml.toJson)) with
      | error f => exact ⟨fun h => (nomatch h), fun ⟨_, _, h, _⟩ => (nomatch h)⟩
      | ok data =>
          refine Checked.toExcept_eq_ok_iff.trans ⟨fun h => ⟨rfl, data, rfl, h⟩, ?_⟩
          rintro ⟨-, data', hdata, hread⟩
          rwa [Except.ok.inj hdata]

end SettingsSources

end QuestionBoard
