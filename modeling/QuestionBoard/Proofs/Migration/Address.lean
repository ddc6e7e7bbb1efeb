import Mathlib.Data.List.TakeWhile
import QuestionBoard.Database.Engine
import QuestionBoard.Migration.Basic
import QuestionBoard.Proofs.Action
import QuestionBoard.Proofs.Text.Points

/-!
The address that migrations and engines share. It travels to the migrations as the text of an option, in
which a percent sign is special, and comes out of it as it went in, whatever it looks like. A driver is put
into an address at most once, and only where the scheme stands.
-/

namespace QuestionBoard

/-! ### Texts of options -/

namespace OptionText

/-- A text without its pairs of percent signs, which are taken away from the left. A percent sign that is left,
and is no reference to another option, is refused when an option is set. -/
def withoutPairs : List CodePoint → List CodePoint
  | .char '%' :: .char '%' :: rest => withoutPairs rest
  | p :: rest => p :: withoutPairs rest
  | [] => []

variable {p : CodePoint} (lookup : Text → Option (List CodePoint))

theorem escaped_cons_of_ne (hp : p ≠ .char '%') (ps : List CodePoint) : escaped (p :: ps) = p :: escaped ps := by
  rw [escaped]
  exact hp

theorem withoutPairs_cons_of_ne (hp : p ≠ .char '%') (ps : List CodePoint) :
    withoutPairs (p :: ps) = p :: withoutPairs ps := by
  rw [withoutPairs]
  exact fun _ h => absurd h hp

theorem read_cons_of_ne (hp : p ≠ .char '%') (ps : List CodePoint) :
    read lookup (p :: ps) = (read lookup ps).map (p :: ·) := by
  rw [read]
  · exact fun _ h => absurd h hp
  · exact fun _ h => absurd h hp
  · exact hp

/-- An escaped text is read as the text, whatever other options there are. -/
theorem read_escaped (ps : List CodePoint) : read lookup (escaped ps) = some ps := by
  induction ps with
  | nil => rw [escaped, read]
  | cons p rest ih =>
      by_cases hp : p = .char '%'
      · subst hp
        rw [escaped, read, ih]
        rfl
      · rw [escaped_cons_of_ne hp, read_cons_of_ne lookup hp, ih]
        rfl

example : read (fun name => if name = "host" then some (Text.plain "db").points else none)
    (Text.plain "%(host)s/100%%").points = some (Text.plain "db/100%").points := by cbv
example : read (fun _ => none) (Text.plain "100%").points = none := by cbv

/-- An escaped text has percent signs in pairs only. -/
theorem not_mem_withoutPairs_escaped (ps : List CodePoint) : .char '%' ∉ withoutPairs (escaped ps) := by
  induction ps with
  | nil => simp [escaped, withoutPairs]
  | cons p rest ih =>
      by_cases hp : p = .char '%'
      · subst hp
        rwa [escaped, withoutPairs]
      · rw [escaped_cons_of_ne hp, withoutPairs_cons_of_ne hp]
        exact List.not_mem_cons_of_ne_of_not_mem (Ne.symm hp) ih

end OptionText

/-! ### Drivers -/

namespace DatabaseUrl

/-- What follows the scheme of an address: the mark `://` and the rest, or nothing if there is no mark. -/
def behindScheme (url : Text) : List CodePoint := url.points.drop (beforeMark url.points).length

/-- What is put into an address as its start. -/
def opened (opening : String) (rest : List CodePoint) : Text := .ofPoints ((Text.plain opening).points ++ rest)

/-- Whether a text is a scheme without colons and the mark behind it. -/
def IsOpening (opening : String) : Prop :=
  opening.toList = opening.toList.takeWhile (· != ':') ++ [':', '/', '/']

theorem isOpening_of_mem_drivers : ∀ entry ∈ drivers, IsOpening entry.1 ∧ IsOpening entry.2 := by
  unfold IsOpening
  decide

/-- No replacement begins as an address without a driver does. -/
theorem not_prefix_of_mem_drivers : ∀ entry ∈ drivers, ∀ other ∈ drivers,
    (Text.plain other.1).points.length ≤ (Text.plain entry.2).points.length ∧
      ¬(Text.plain other.1).points <+: (Text.plain entry.2).points := by
  decide

theorem beforeMark_append {scheme : List CodePoint} (h : .char ':' ∉ scheme) (rest : List CodePoint) :
    beforeMark (scheme ++ .char ':' :: .char '/' :: .char '/' :: rest) = scheme := by
  induction scheme with
  | nil => rfl
  | cons p scheme ih =>
      rw [List.mem_cons, not_or] at h
      obtain ⟨hp, hscheme⟩ := h
      rw [List.cons_append, beforeMark, ih hscheme]
      rintro _ rfl
      exact absurd rfl hp

theorem points_opened (opening : String) (rest : List CodePoint) :
    (opened opening rest).points = (Text.plain opening).points ++ rest := Text.points_ofPoints _

theorem behindScheme_opened {opening : String} (h : IsOpening opening) (rest : List CodePoint) :
    behindScheme (opened opening rest) = .char ':' :: .char '/' :: .char '/' :: rest := by
  have hscheme : CodePoint.char ':' ∉ (opening.toList.takeWhile (· != ':')).map CodePoint.char := by
    intro hmem
    obtain ⟨c, hc, hcolon⟩ := List.mem_map.mp hmem
    have hne := List.mem_takeWhile_imp hc
    rw [CodePoint.char.inj hcolon] at hne
    exact absurd hne (by decide)
  have hpoints : (opened opening rest).points =
      (opening.toList.takeWhile (· != ':')).map .char ++ .char ':' :: .char '/' :: .char '/' :: rest := by
    have hopening := congrArg (List.map CodePoint.char) h
    rw [List.map_append] at hopening
    rw [points_opened, Text.points_plain, hopening, List.append_assoc]
    rfl
  rw [behindScheme, hpoints, beforeMark_append hscheme, List.drop_left]

theorem eq_append_of_after? {opening url rest : List CodePoint} (h : after? opening url = some rest) :
    url = opening ++ rest := by
  unfold after? at h
  split at h
  · next hprefix =>
      rw [← Option.some.inj h]
      exact (List.prefix_iff_eq_append.mp (List.isPrefixOf_iff_prefix.mp hprefix)).symm
  · cases h

/-- A driver is put into the place of an opening without one, or the address stays as it is. -/
theorem withDriver_cases (url : Text) :
    (∃ entry ∈ drivers, ∃ rest, url = opened entry.1 rest ∧ withDriver url = opened entry.2 rest) ∨
      withDriver url = url := by
  cases hfound : drivers.findSome? fun entry =>
      (after? (Text.plain entry.1).points url.points).map (opened entry.2) with
  | none => exact Or.inr (congrArg (Option.getD · url) hfound)
  | some changed =>
      obtain ⟨entry, hentry, hchanged⟩ := List.exists_of_findSome?_eq_some hfound
      obtain ⟨rest, hafter, rfl⟩ := Option.map_eq_some_iff.mp hchanged
      refine Or.inl ⟨entry, hentry, rest, Text.points_injective ?_, congrArg (Option.getD · url) hfound⟩
      rw [points_opened]
      exact eq_append_of_after? hafter

theorem withDriver_eq_self {url : Text} (h : ∀ entry ∈ drivers, ¬(Text.plain entry.1).points <+: url.points) :
    withDriver url = url := by
  rcases withDriver_cases url with ⟨entry, hentry, rest, rfl, -⟩ | h
  · exact absurd (by rw [points_opened]; exact List.prefix_append _ _) (h entry hentry)
  · exact h

/-- An address that has a driver gets none. -/
theorem withDriver_withDriver (url : Text) : withDriver (withDriver url) = withDriver url := by
  rcases withDriver_cases url with ⟨entry, hentry, rest, -, hdriver⟩ | hsame
  · rw [hdriver]
    refine withDriver_eq_self fun other hother hprefix => ?_
    obtain ⟨hlength, hne⟩ := not_prefix_of_mem_drivers entry hentry other hother
    rw [points_opened] at hprefix
    exact hne (List.prefix_of_prefix_length_le hprefix (List.prefix_append _ _) hlength)
  · rw [hsame, hsame]

/-- A driver changes nothing but the scheme. -/
theorem behindScheme_withDriver (url : Text) : behindScheme (withDriver url) = behindScheme url := by
  rcases withDriver_cases url with ⟨entry, hentry, rest, rfl, hdriver⟩ | hsame
  · obtain ⟨hopening, hreplacement⟩ := isOpening_of_mem_drivers entry hentry
    rw [hdriver, behindScheme_opened hopening, behindScheme_opened hreplacement]
  · rw [hsame]

theorem withDriver_of_no_mark {url : Text} (h : behindScheme url = []) : withDriver url = url := by
  rcases withDriver_cases url with ⟨entry, hentry, rest, rfl, -⟩ | hsame
  · cases (behindScheme_opened (isOpening_of_mem_drivers entry hentry).1 rest).symm.trans h
  · exact hsame

end DatabaseUrl

/-! ### Who reads the address -/

/-- The engine that is created has the parts of the address with a driver. -/
theorem Engine.result_create {σ : Type} (settings : PostgresSettings) (number : Nat) (s : σ) (j : Journal) :
    ((Engine.create settings number).outcome s j).result.map Engine.url =
      Engine.address (DatabaseUrl.withDriver settings.url) := by
  rw [Engine.create, Action.outcome_bind, Action.outcome_log, Action.andThen_ok, Action.outcome_bind,
    Action.outcome_ofExcept]
  cases Engine.address (DatabaseUrl.withDriver settings.url) <;> rfl

namespace Migration

theorem address_eq (url : Text) : address url = .ok (DatabaseUrl.withDriver url) := by
  rw [address, addressOption, OptionText.read_escaped]
  exact congrArg Except.ok (Text.ofPoints_points _)

/-- A migration is run at the address with a driver. -/
theorem outcome_run {δ : Type} [DatabaseHost δ] (m : Migration) (url : Text) (host : δ) (j : Journal) :
    (m.run url).outcome host j =
      ⟨(DatabaseHost.migrate m (DatabaseUrl.withDriver url) host).1,
        (DatabaseHost.migrate m (DatabaseUrl.withDriver url) host).2,
        j.write ⟨.info, logger, m.announcement⟩⟩ := by
  rw [run, Action.outcome_bind, Action.outcome_log, Action.andThen_ok, address_eq]
  rfl

/-- The option that holds an address is accepted, and is read as the address with a driver, whatever percent
signs the address has and whatever other options there are. Migrations are run at this address, and engines are
created with its parts. No driver is put into it a second time; what follows the scheme stays as it was, and
without a mark behind the scheme all of it does. -/
theorem address_shared (url : Text) :
    .char '%' ∉ OptionText.withoutPairs (addressOption url) ∧
      (∀ lookup, OptionText.read lookup (addressOption url) = some (DatabaseUrl.withDriver url).points) ∧
      address url = .ok (DatabaseUrl.withDriver url) ∧
      (∀ {δ : Type} [DatabaseHost δ] (m : Migration) (host : δ) (j : Journal), (m.run url).outcome host j =
        ⟨(DatabaseHost.migrate m (DatabaseUrl.withDriver url) host).1,
          (DatabaseHost.migrate m (DatabaseUrl.withDriver url) host).2,
          j.write ⟨.info, logger, m.announcement⟩⟩) ∧
      (∀ {σ : Type} (settings : PostgresSettings) (number : Nat) (s : σ) (j : Journal),
        ((Engine.create { settings with url } number).outcome s j).result.map Engine.url =
          Engine.address (DatabaseUrl.withDriver url)) ∧
      DatabaseUrl.withDriver (DatabaseUrl.withDriver url) = DatabaseUrl.withDriver url ∧
      DatabaseUrl.behindScheme (DatabaseUrl.withDriver url) = DatabaseUrl.behindScheme url ∧
      (DatabaseUrl.behindScheme url = [] → DatabaseUrl.withDriver url = url) := by
  refine ⟨OptionText.not_mem_withoutPairs_escaped _, fun lookup => OptionText.read_escaped lookup _,
    address_eq url, fun m host j => outcome_run m url host j, fun settings number s j => ?_,
    DatabaseUrl.withDriver_withDriver url, DatabaseUrl.behindScheme_withDriver url,
    DatabaseUrl.withDriver_of_no_mark⟩
  exact Engine.result_create { settings with url } number s j

/-- Percent signs before anything, or at the end, come out of the option as they went in; a text without a mark
gets no driver. -/
theorem address_shared_percents :
    address "postgres://board:p%40ss%%(x)s@db/qna%" = .ok "postgresql+asyncpg://board:p%40ss%%(x)s@db/qna%" ∧
      DatabaseUrl.behindScheme "postgres:qna" = [] ∧ DatabaseUrl.withDriver "postgres:qna" = "postgres:qna" := by
  obtain ⟨-, -, hread, -⟩ := address_shared "postgres://board:p%40ss%%(x)s@db/qna%"
  obtain ⟨-, -, -, -, -, -, -, hmark⟩ := address_shared "postgres:qna"
  exact ⟨hread, rfl, hmark rfl⟩

end Migration

end QuestionBoard
