import QuestionBoard.Log.Handlers
import QuestionBoard.Proofs.Action

/-!
What it comes to that a logger is configured, once and again. `Configures` has a case for each way in which
a call can go, with the logger and the journal after it written out. However a call goes, the handlers that
were made before it are closed or, if the level has no name, left as they are; a call does all that it is
told unless its template is refused or its log file fails in another way than those that are warned of.
-/

namespace QuestionBoard

namespace Log

/-- The log file that options ask for; an empty path asks for none. -/
def Options.path? (options : Options) : Option Text := options.file.filter (· != "")

namespace Logger

variable {φ : Type} [FileSystem φ]

/-- The logger without its handlers, which are closed, at another level. -/
def reset (level : Int) (l : Logger φ) : Logger φ :=
  { l with level, handlers := [], closed := l.closed ++ l.handlers.map (·.number) }

/-- The logger with one more handler. -/
def attached (sink : Sink) (layout : Layout) (l : Logger φ) : Logger φ :=
  { l with handlers := l.handlers ++ [⟨l.made, sink, layout⟩], made := l.made + 1 }

/-- The logger with a handler for the console, if options ask for one. -/
def consoled (options : Options) (layout : Layout) (l : Logger φ) : Logger φ :=
  if options.console then l.attached .console layout else l

/-- What it comes to that the directory of a log file is made and the file opened, and the files after
that. -/
def opening (path : Text) (files : φ) : Except Failure Unit × φ :=
  let (made, files) :=
    if Path.directory path == "" then (.ok (), files) else FileSystem.makeDirectories (Path.directory path) files
  match made with
  | .ok () => FileSystem.openToAppend path files
  | .error f => (.error f, files)

/-- The journal after a warning that a log file could not be opened, as far as the level lets it. -/
def warned (path : Text) (f : Failure) (l : Logger φ) (j : Journal) : Journal :=
  if l.isEnabled Level.warning.severity then
    j.write ⟨.warning, l.name, "Could not create log file " ++ path ++ ": " ++ f.message⟩
  else j

/-- The ways in which a call can go. -/
inductive Configures (options : Options) (l : Logger φ) (j : Journal) : Action.Outcome (Logger φ) Unit → Prop
  | unnamed {f : Failure} : options.level.severity = .error f → Configures options l j ⟨.error f, l, j⟩
  | refused {level : Int} {f : Failure} : options.level.severity = .ok level →
      layoutOf options = .error f → Configures options l j ⟨.error f, l.reset level, j⟩
  | fileless {level : Int} {layout : Layout} : options.level.severity = .ok level →
      layoutOf options = .ok layout → options.path? = none →
        Configures options l j ⟨.ok (), (l.reset level).consoled options layout, j⟩
  | opened {level : Int} {layout : Layout} {path : Text} {files : φ} :
      options.level.severity = .ok level → layoutOf options = .ok layout → options.path? = some path →
        opening path l.files = (.ok (), files) →
          Configures options l j
            ⟨.ok (), { (l.reset level).consoled options layout with files }.attached (.file path) layout, j⟩
  | warns {level : Int} {layout : Layout} {path : Text} {f : Failure} {files : φ} :
      options.level.severity = .ok level → layoutOf options = .ok layout → options.path? = some path →
        opening path l.files = (.error f, files) → isTolerated f = true →
          Configures options l j ⟨.ok (), { (l.reset level).consoled options layout with files },
            warned path f { (l.reset level).consoled options layout with files } j⟩
  | breaksOff {level : Int} {layout : Layout} {path : Text} {f : Failure} {files : φ} :
      options.level.severity = .ok level → layoutOf options = .ok layout → options.path? = some path →
        opening path l.files = (.error f, files) → isTolerated f = false →
          Configures options l j ⟨.error f, { (l.reset level).consoled options layout with files }, j⟩

variable {options : Options} {l : Logger φ} {j : Journal}

theorem outcome_openLogFile (path : Text) (l : Logger φ) (j : Journal) :
    (openLogFile path).outcome l j =
      ⟨(opening path l.files).1, { l with files := (opening path l.files).2 }, j⟩ := by
  unfold openLogFile opening
  simp only [Action.outcome_bind, Action.outcome_get, Action.andThen_ok]
  generalize (if Path.directory path == "" then ((.ok () : Except Failure Unit), l.files) else
    FileSystem.makeDirectories (Path.directory path) l.files) = made
  obtain ⟨_ | _, files⟩ := made
  · rfl
  · rfl

omit [FileSystem φ] in
theorem outcome_attach (sink : Sink) (layout : Layout) (l : Logger φ) (j : Journal) :
    (attach sink layout).outcome l j = ⟨.ok (), l.attached sink layout, j⟩ := rfl

omit [FileSystem φ] in
/-- What is done after the console's handler is attached, if it is. -/
theorem outcome_consoled (options : Options) (layout : Layout) (rest : Action (Logger φ) Unit) (l : Logger φ)
    (j : Journal) :
    (if options.console = true then attach .console layout >>= fun _ => rest else rest).outcome l j =
      rest.outcome (l.consoled options layout) j := by
  unfold consoled
  split
  · simp only [Action.outcome_bind, outcome_attach, Action.andThen_ok]
  · rfl

omit [FileSystem φ] in
theorem consoled_reset (options : Options) (layout : Layout) (level : Int) (l : Logger φ) :
    (l.reset level).consoled options layout =
      { l.reset level with
        handlers := if options.console then [⟨l.made, .console, layout⟩] else []
        made := if options.console then l.made + 1 else l.made } := by
  unfold consoled
  split <;> rfl

omit [FileSystem φ] in
/-- What is done once a log file could not be opened. -/
theorem outcome_failed (path : Text) (f : Failure) (l : Logger φ) (j : Journal) :
    (do
      let l : Logger φ ← get
      if !isTolerated f then throw f
      if l.isEnabled Level.warning.severity then
        Action.log .warning l.name ("Could not create log file " ++ path ++ ": " ++ f.message)
      : Action (Logger φ) Unit).outcome l j =
        if isTolerated f then ⟨.ok (), l, warned path f l j⟩ else ⟨.error f, l, j⟩ := by
  unfold warned
  cases htolerated : isTolerated f with
  | false => rfl
  | true =>
      simp only [Action.outcome_bind, Action.outcome_get, Action.andThen_ok, Bool.not_true, Bool.false_eq_true,
        if_false, if_true]
      split <;> rfl

/-- Every call goes in one of the ways. -/
theorem configures (options : Options) (l : Logger φ) (j : Journal) :
    Configures options l j ((configure options).outcome l j) := by
  unfold configure
  cases hlevel : options.level.severity with
  | error f => exact .unnamed hlevel
  | ok level =>
      simp only [Action.outcome_bind, Action.outcome_ofExcept, Action.andThen_ok, Action.outcome_modify, detachAll]
      cases hlayout : layoutOf options with
      | error f => exact .refused hlevel hlayout
      | ok layout =>
          simp only [Action.andThen_ok]
          refine Eq.mpr (congrArg _ (outcome_consoled options layout _ (l.reset level) j)) ?_
          have hfiles : ((l.reset level).consoled options layout).files = l.files := by
            rw [consoled_reset]
            rfl
          cases hfile : options.file with
          | none => exact .fileless hlevel hlayout (by rw [Options.path?, hfile]; rfl)
          | some path =>
              by_cases hempty : path = ""
              · subst hempty
                exact .fileless hlevel hlayout (by rw [Options.path?, hfile]; rfl)
              · have hpath : options.path? = some path := by simp [Options.path?, hfile, hempty]
                split
                · contradiction
                · simp_all
                · next heq =>
                    cases heq
                    simp only [Action.outcome_bind, Action.outcome_attempt, outcome_openLogFile, hfiles,
                      Action.andThen_ok]
                    generalize hopening : opening path l.files = opened
                    obtain ⟨f | _, files⟩ := opened
                    · rw [outcome_failed]
                      cases htolerated : isTolerated f with
                      | true => exact .warns hlevel hlayout hpath hopening htolerated
                      | false => exact .breaksOff hlevel hlayout hpath hopening htolerated
                    · exact .opened hlevel hlayout hpath hopening

/-! ### Handlers in account -/

/-- Whether every handler that was made is closed or attached, none of them twice. -/
def Accounts (l : Logger φ) : Prop := l.closed ++ l.handlers.map (·.number) = List.range l.made

omit [FileSystem φ] in
theorem Accounts.reset (h : l.Accounts) (level : Int) : (l.reset level).Accounts :=
  (List.append_nil _).trans h

omit [FileSystem φ] in
theorem Accounts.attached (h : l.Accounts) (sink : Sink) (layout : Layout) :
    (l.attached sink layout).Accounts := by
  have hnumbers : (l.attached sink layout).closed ++ (l.attached sink layout).handlers.map (·.number) =
      (l.closed ++ l.handlers.map (·.number)) ++ [l.made] := by simp [Logger.attached]
  exact hnumbers.trans ((congrArg (· ++ [l.made]) h).trans List.range_succ.symm)

omit [FileSystem φ] in
theorem Accounts.consoled (h : l.Accounts) (options : Options) (layout : Layout) :
    (l.consoled options layout).Accounts := by
  unfold Logger.consoled
  split
  · exact h.attached .console layout
  · exact h

theorem Accounts.of_configures {o : Action.Outcome (Logger φ) Unit} (h : l.Accounts)
    (hcall : Configures options l j o) : o.state.Accounts := by
  cases hcall with
  | unnamed _ => exact h
  | refused _ _ => exact h.reset _
  | fileless _ _ _ | warns _ _ _ _ _ | breaksOff _ _ _ _ _ => exact (h.reset _).consoled options _
  | opened _ _ _ _ => exact Accounts.attached ((h.reset _).consoled options _) _ _

/-! ### One call -/

/-- Where the handlers that options ask for write, the log file's only if the file can be opened. -/
def sinks (options : Options) (files : φ) : List Sink :=
  (if options.console then [.console] else []) ++
    match options.path? with
    | none => []
    | some path =>
      match (opening path files).1 with
      | .ok () => [.file path]
      | .error _ => []

/-- The journal after a call: there is a warning in it if the log file could not be opened. -/
def noted (options : Options) (files : φ) (l : Logger φ) (j : Journal) : Journal :=
  match options.path? with
  | none => j
  | some path =>
    match (opening path files).1 with
    | .ok () => j
    | .error f => warned path f l j

/-- What a call for a level is to come to: it returns, the handlers are those that it asks for and no
others, and all that were made before it are closed. -/
structure Sets (options : Options) (level : Int) (l : Logger φ) (j : Journal)
    (o : Action.Outcome (Logger φ) Unit) : Prop where
  returns : o.result = .ok ()
  level : o.state.level = level
  sinks : o.state.handlers.map (·.sink) = sinks options l.files
  layouts : ∀ handler ∈ o.state.handlers, layoutOf options = .ok handler.layout
  closed : o.state.closed = List.range l.made
  fresh : ∀ handler ∈ o.state.handlers, l.made ≤ handler.number
  journal : o.journal = noted options l.files o.state j

/-- Whether a call does as it is told. A call for what is no level raises and changes nothing. -/
def AsTold (options : Options) (l : Logger φ) (j : Journal) : Prop :=
  match options.level.severity with
  | .error f => (configure options).outcome l j = ⟨.error f, l, j⟩
  | .ok level => Sets options level l j ((configure options).outcome l j)

/-- Whether a call for a level has its template refused, or fails on its log file in another way than
those that are warned of. -/
def Stumbles (options : Options) (l : Logger φ) : Prop :=
  (∃ level, options.level.severity = .ok level) ∧
    ((∃ f, layoutOf options = .error f) ∨
      ∃ path f, options.path? = some path ∧ (opening path l.files).1 = .error f ∧ isTolerated f = false)

/-- Whether a call for a level leaves none of the handlers made before it, however it ends. -/
def ClosesEarlier (options : Options) (l : Logger φ) (j : Journal) : Prop :=
  ∀ level, options.level.severity = .ok level →
    ((configure options).outcome l j).state.closed = List.range l.made ∧
      ∀ handler ∈ ((configure options).outcome l j).state.handlers, l.made ≤ handler.number

omit [FileSystem φ] in
/-- No handler that is attached was closed. -/
theorem Accounts.number_notMem_closed (h : l.Accounts) {handler : Handler} (hmem : handler ∈ l.handlers) :
    handler.number ∉ l.closed := by
  have hnodup : (l.closed ++ l.handlers.map (·.number)).Nodup := h ▸ List.nodup_range
  exact fun hclosed => (List.nodup_append.mp hnodup).2.2 _ hclosed _ (List.mem_map_of_mem hmem) rfl

/-- A call for a level closes all that were made before it, in whichever way it goes. -/
theorem Configures.closed_eq {o : Action.Outcome (Logger φ) Unit} (h : l.Accounts)
    (hcall : Configures options l j o) {level : Int} (hlevel : options.level.severity = .ok level) :
    o.state.closed = List.range l.made := by
  cases hcall with
  | unnamed hunnamed => cases hunnamed.symm.trans hlevel
  | refused _ _ => exact h
  | fileless _ _ _ | warns _ _ _ _ _ | breaksOff _ _ _ _ _ | opened _ _ _ _ =>
      rw [consoled_reset]
      exact h

theorem Configures.le_number {o : Action.Outcome (Logger φ) Unit} (h : l.Accounts)
    (hcall : Configures options l j o) {level : Int} (hlevel : options.level.severity = .ok level)
    {handler : Handler} (hmem : handler ∈ o.state.handlers) : l.made ≤ handler.number := by
  have hnumber := (h.of_configures hcall).number_notMem_closed hmem
  rw [hcall.closed_eq h hlevel, List.mem_range] at hnumber
  exact Nat.le_of_not_lt hnumber

theorem closesEarlier (h : l.Accounts) (options : Options) (j : Journal) : ClosesEarlier options l j :=
  fun _ hlevel => ⟨(configures options l j).closed_eq h hlevel,
    fun _ hmem => (configures options l j).le_number h hlevel hmem⟩

theorem Configures.eq_of_unnamed {o : Action.Outcome (Logger φ) Unit} {f : Failure}
    (hcall : Configures options l j o) (hunnamed : options.level.severity = .error f) :
    o = ⟨.error f, l, j⟩ := by
  cases hcall with
  | unnamed hunnamed' =>
      cases hunnamed.symm.trans hunnamed'
      rfl
  | refused hnamed _ | fileless hnamed _ _ | opened hnamed _ _ _ | warns hnamed _ _ _ _
  | breaksOff hnamed _ _ _ _ => cases hunnamed.symm.trans hnamed

/-- A call for a level stumbles if and only if it does not return. -/
theorem Configures.stumbles_iff {o : Action.Outcome (Logger φ) Unit} (hcall : Configures options l j o)
    {level : Int} (hlevel : options.level.severity = .ok level) :
    Stumbles options l ↔ o.result ≠ .ok () := by
  have hstands : ∀ {layout}, layoutOf options = .ok layout →
      (∀ path f, options.path? = some path → (opening path l.files).1 = .error f → isTolerated f = true) →
        ¬Stumbles options l := by
    rintro layout hlayout hfile ⟨-, ⟨f, hrefused⟩ | ⟨path, f, hpath, hopening, htolerated⟩⟩
    · cases hlayout.symm.trans hrefused
    · cases (hfile path f hpath hopening).symm.trans htolerated
  cases hcall with
  | unnamed hunnamed => cases hunnamed.symm.trans hlevel
  | refused _ hrefused => exact iff_of_true ⟨⟨level, hlevel⟩, Or.inl ⟨_, hrefused⟩⟩ (by simp)
  | breaksOff _ _ hpath hopening htolerated =>
      have hfailed := congrArg Prod.fst hopening
      exact iff_of_true ⟨⟨level, hlevel⟩, Or.inr ⟨_, _, hpath, hfailed, htolerated⟩⟩ (by simp)
  | fileless _ hlayout hpath =>
      refine iff_of_false (hstands hlayout fun path f hpath' _ => ?_) (not_not_intro rfl)
      cases hpath.symm.trans hpath'
  | opened _ hlayout hpath hopening =>
      refine iff_of_false (hstands hlayout fun path f hpath' hfailed => ?_) (not_not_intro rfl)
      cases hpath.symm.trans hpath'
      cases (congrArg Prod.fst hopening).symm.trans hfailed
  | warns _ hlayout hpath hopening htolerated =>
      refine iff_of_false (hstands hlayout fun path f hpath' hfailed => ?_) (not_not_intro rfl)
      cases hpath.symm.trans hpath'
      cases (congrArg Prod.fst hopening).symm.trans hfailed
      exact htolerated

/-- A call for a level that returns sets the logger up as it is told. -/
theorem Configures.sets {o : Action.Outcome (Logger φ) Unit} (h : l.Accounts)
    (hcall : Configures options l j o) {level : Int} (hlevel : options.level.severity = .ok level)
    (hreturns : o.result = .ok ()) : Sets options level l j o := by
  have hclosed := hcall.closed_eq h hlevel
  have hfresh : ∀ handler ∈ o.state.handlers, l.made ≤ handler.number :=
    fun _ hmem => hcall.le_number h hlevel hmem
  cases hcall with
  | unnamed _ | refused _ _ | breaksOff _ _ _ _ _ => cases hreturns
  | fileless hnamed hlayout hpath =>
      cases hlevel.symm.trans hnamed
      refine ⟨rfl, ?_, ?_, ?_, hclosed, hfresh, ?_⟩
      · rw [consoled_reset]
        rfl
      · rw [consoled_reset]
        cases hconsole : options.console <;> simp [Logger.sinks, hpath, hconsole]
      · rw [consoled_reset]
        cases options.console <;> simp [hlayout]
      · rw [noted, hpath]
  | opened hnamed hlayout hpath hopening =>
      cases hlevel.symm.trans hnamed
      refine ⟨rfl, ?_, ?_, ?_, hclosed, hfresh, ?_⟩
      · rw [consoled_reset]
        rfl
      · rw [consoled_reset]
        cases hconsole : options.console <;> simp [Logger.sinks, attached, hpath, hopening, hconsole]
      · rw [consoled_reset]
        cases options.console <;> simp [attached, hlayout]
      · simp only [noted, hpath, hopening]
  | warns hnamed hlayout hpath hopening _ =>
      cases hlevel.symm.trans hnamed
      refine ⟨rfl, ?_, ?_, ?_, hclosed, hfresh, ?_⟩
      · rw [consoled_reset]
        rfl
      · rw [consoled_reset]
        cases hconsole : options.console <;> simp [Logger.sinks, hpath, hopening, hconsole]
      · rw [consoled_reset]
        cases options.console <;> simp [hlayout]
      · simp only [noted, hpath, hopening]

/-- A call does as it is told unless it stumbles. -/
theorem asTold_iff_not_stumbles (h : l.Accounts) (options : Options) (j : Journal) :
    AsTold options l j ↔ ¬Stumbles options l := by
  have hcall := configures options l j
  unfold AsTold
  cases hlevel : options.level.severity with
  | error f =>
      refine iff_of_true (hcall.eq_of_unnamed hlevel) ?_
      rintro ⟨⟨level, hnamed⟩, -⟩
      cases hlevel.symm.trans hnamed
  | ok level =>
      rw [hcall.stumbles_iff hlevel, Classical.not_not]
      exact ⟨Sets.returns, hcall.sets h hlevel⟩

/-! ### Calls one after another -/

/-- Whether something holds of every one of some calls, with the logger and the journal before it. What
follows a call that raises starts from what that call left. -/
def EachCall (P : Options → Logger φ → Journal → Prop) : List Options → Logger φ → Journal → Prop
  | [], _, _ => True
  | options :: rest, l, j =>
    P options l j ∧
      EachCall P rest ((configure options).outcome l j).state ((configure options).outcome l j).journal

variable {P Q : Options → Logger φ → Journal → Prop}

theorem eachCall_of_accounts (hP : ∀ options (l : Logger φ) j, l.Accounts → P options l j) (h : l.Accounts)
    (calls : List Options) (j : Journal) : EachCall P calls l j := by
  induction calls generalizing l j with
  | nil => exact trivial
  | cons options rest ih =>
      exact ⟨hP options l j h, ih (h.of_configures (configures options l j)) _⟩

theorem eachCall_congr (hPQ : ∀ options (l : Logger φ) j, l.Accounts → (P options l j ↔ Q options l j))
    (h : l.Accounts) (calls : List Options) (j : Journal) : EachCall P calls l j ↔ EachCall Q calls l j := by
  induction calls generalizing l j with
  | nil => exact Iff.rfl
  | cons options rest ih =>
      exact and_congr (hPQ options l j h) (ih (h.of_configures (configures options l j)) _)

/-- Whatever the file system does and however often a logger is configured, every call does as it is told
if none stumbles, and only then; and however a call for a level ends, none of the handlers made before it
is left. -/
theorem calls_asTold_iff (h : l.Accounts) (calls : List Options) (j : Journal) :
    (EachCall AsTold calls l j ↔ EachCall (fun options l _ => ¬Stumbles options l) calls l j) ∧
      EachCall ClosesEarlier calls l j :=
  ⟨eachCall_congr (fun options _ j h => asTold_iff_not_stumbles h options j) h calls j,
    eachCall_of_accounts (fun options _ j h => closesEarlier h options j) h calls j⟩

/-- A logger that nothing has been done with, over some files. -/
def fresh (files : List (String × String)) : Logger FileTree := { name := "qna", files := .ofFiles files }

/-- Calls with a log file in a new directory, in one where nothing can be made, and for what is no level. -/
def restless : List Options :=
  [{ useJson := true, file := some "logs/qna.log" },
    { level := .named "warn", useJson := true, file := some "/proc/logs/qna.log" },
    { level := .named "loud", console := false }]

theorem calls_asTold_restless : (fresh []).Accounts ∧ EachCall AsTold restless (fresh []) .verbose := by
  have haccounts : (fresh []).Accounts := rfl
  have hreturns : ∀ {options : Options} {l : Logger FileTree} {j : Journal},
      ((configure options).outcome l j).result.isOk = true → ¬Stumbles options l := by
    intro options l j hok hstumbles
    obtain ⟨level, hlevel⟩ := hstumbles.1
    refine ((configures options l j).stumbles_iff hlevel).mp hstumbles ?_
    cases hresult : ((configure options).outcome l j).result with
    | ok _ => rfl
    | error f => simp [hresult, Except.isOk, Except.toBool] at hok
  have hloud : ¬∃ level, (LevelChoice.named "loud").severity = .ok level := by
    rintro ⟨level, hlevel⟩
    have hunnamed : (LevelChoice.named "loud").severity.isOk = false := by decide +kernel
    rw [hlevel] at hunnamed
    cases hunnamed
  refine ⟨haccounts, (calls_asTold_iff haccounts restless .verbose).1.mpr ⟨?_, ?_, ?_, trivial⟩⟩
  · exact hreturns (j := .verbose) (by decide +kernel)
  · exact hreturns (j := .verbose) (by decide +kernel)
  · exact fun hstumbles => hloud hstumbles.1

/-- A call for a log file below a regular file. -/
def belowFile : Options := { useJson := true, file := some "qna/qna.log" }

/-- The file is neither opened nor warned of: the call raises, with the handler for the console attached. -/
theorem not_asTold_belowFile : ¬EachCall AsTold [belowFile] (fresh [("qna", "")]) .verbose := by
  rintro ⟨hcall, -⟩
  have hreturns := Sets.returns hcall
  have hraises : ((configure belowFile).outcome (fresh [("qna", "")]) .verbose).result.isOk = false := by
    decide +kernel
  rw [hreturns] at hraises
  cases hraises

end Logger

end Log

end QuestionBoard
