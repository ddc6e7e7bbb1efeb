import Mathlib.Logic.Function.Basic
import QuestionBoard.Proofs.Question.Listing
import QuestionBoard.Question.Handles

/-!
Several handles on several stores. `Listings` is what their users see: listings that share nothing, and
for each handle the listing that it opens. Whatever is done with handles that are open comes to the same
on the stores as on the listings, a failed operation changes nothing, and an operation through a handle
is seen through just those handles that open the same store.
-/

namespace QuestionBoard

open QuestionBoard.Action QuestionStore

/-- Listings, and the place of the one that each handle opens. -/
structure Listings where
  lists : List Listing
  opened : String → Option Nat

namespace Listings

def empty : Listings := ⟨[], fun _ => none⟩

/-- What a command gives, and the listings after it; a handle that is not open reaches none. -/
def perform (command : Handles.Command) (w : Listings) : Except Failure Reply × Listings :=
  match command with
  | .create name questions =>
    (.ok .done, ⟨w.lists ++ [.ofList questions], Function.update w.opened name (some w.lists.length)⟩)
  | .clone name newName => (.ok .done, { w with opened := Function.update w.opened newName (w.opened name) })
  | .perform name operation =>
    match w.opened name with
    | some place =>
      let (result, l) := (w.lists[place]?.getD .empty).perform operation
      (result, { w with lists := w.lists.set place l })
    | none => (.ok .done, w)

theorem opened_create (name other : String) (questions : List Question) (w : Listings) :
    (w.perform (.create name questions)).2.opened other =
      if other = name then some w.lists.length else w.opened other := Function.update_apply ..

theorem opened_clone (name newName other : String) (w : Listings) :
    (w.perform (.clone name newName)).2.opened other =
      if other = newName then w.opened name else w.opened other := Function.update_apply ..

/-- What commands come to one after another. -/
def performAll : List Handles.Command → Listings → List (Except Failure Reply × Listings)
  | [], _ => []
  | command :: rest, w => w.perform command :: performAll rest (w.perform command).2

end Listings

namespace Handles

/-- Whether the handle that a command is about is open. -/
def Command.IsOpen (w : Listings) : Command → Prop
  | .create _ _ => True
  | .clone name _ | .perform name _ => (w.opened name).isSome

/-- Whether commands are about handles that are open, one after another. -/
def AllOpen : List Command → Listings → Prop
  | [], _ => True
  | command :: rest, w => command.IsOpen w ∧ AllOpen rest (w.perform command).2

/-- A command that was done, with the handles before it. -/
structure Done where
  before : Handles
  command : Command
  outcome : Outcome Handles Reply

def transcript : List Command → Handles → Journal → List Done
  | [], _, _ => []
  | command :: rest, h, j =>
      let o := command.run.outcome h j
      ⟨h, command, o⟩ :: transcript rest o.state o.journal

/-- The handles open stores that hold the questions of the listings. -/
structure Shows (h : Handles) (w : Listings) : Prop where
  opened : ∀ name, h.opened.get? name = w.opened name
  stores : List.Forall₂ QuestionStore.Shows h.stores w.lists
  lt_length : ∀ name place, w.opened name = some place → place < w.lists.length

variable {h : Handles} {w : Listings} {name other : String} {place : Nat}

theorem shows_empty : empty.Shows .empty := ⟨fun _ => rfl, .nil, by simp [Listings.empty]⟩

theorem Shows.place_eq (hs : h.Shows w) (hopen : w.opened name = some place) : h.place name = place := by
  rw [Handles.place, hs.opened, hopen, Option.getD_some]

theorem Shows.length_eq (hs : h.Shows w) : h.stores.length = w.lists.length := hs.stores.length_eq

/-- The store of an open handle, and the listing that it shows. -/
theorem Shows.storeOf (hs : h.Shows w) (hopen : w.opened name = some place) :
    h.stores[place]? = some (h.storeOf name) ∧
      (h.storeOf name).Shows (w.lists[place]?.getD .empty) := by
  have hlt : place < w.lists.length := hs.lt_length name place hopen
  have hlt' : place < h.stores.length := hs.length_eq ▸ hlt
  rw [Handles.storeOf, hs.place_eq hopen, List.getElem?_eq_getElem hlt, List.getElem?_eq_getElem hlt']
  exact ⟨rfl, List.Forall₂.get hs.stores hlt' hlt⟩

/-- What an operation through a handle comes to. -/
theorem outcome_perform (name : String) (operation : Operation) (h : Handles) (j : Journal) :
    (Command.perform name operation).run.outcome h j =
      ⟨(operation.run.outcome (h.storeOf name) j).result,
        { h with stores := h.stores.set (h.place name) (operation.run.outcome (h.storeOf name) j).state },
        (operation.run.outcome (h.storeOf name) j).journal⟩ := rfl

theorem forall₂_set {α β : Type} {R : α → β → Prop} {xs : List α} {ys : List β}
    (h : List.Forall₂ R xs ys) {x : α} {y : β} (hxy : R x y) (place : Nat) :
    List.Forall₂ R (xs.set place x) (ys.set place y) := by
  induction h generalizing place with
  | nil => exact .nil
  | cons hhead htail ih =>
      cases place with
      | zero => exact .cons hxy htail
      | succ place => exact .cons hhead (ih place)

theorem Shows.create (hs : h.Shows w) (name : String) (questions : List Question) :
    (h.openList name questions).Shows (w.perform (.create name questions)).2 where
  opened other := by
    change (h.opened.insert name h.stores.length).get? other = _
    rw [OrderedMap.get?_insert, hs.length_eq, hs.opened, Listings.opened_create]
  stores := List.rel_append hs.stores (.cons (shows_ofList questions) .nil)
  lt_length other place hopen := by
    change place < (w.lists ++ [Listing.ofList questions]).length
    rw [List.length_append, List.length_singleton]
    rw [Listings.opened_create] at hopen
    split at hopen
    · obtain rfl := Option.some.inj hopen
      exact Nat.lt_succ_self _
    · exact Nat.lt_succ_of_lt (hs.lt_length other place hopen)

theorem Shows.clone (hs : h.Shows w) (hopen : (w.opened name).isSome) (newName : String) :
    (h.clone name newName).Shows (w.perform (.clone name newName)).2 where
  opened other := by
    obtain ⟨place, hplace⟩ := Option.isSome_iff_exists.mp hopen
    change (h.opened.insert newName (h.place name)).get? other = _
    rw [OrderedMap.get?_insert, hs.place_eq hplace, hs.opened, Listings.opened_clone, hplace]
  stores := hs.stores
  lt_length other place hother := by
    rw [Listings.opened_clone] at hother
    split at hother
    · exact hs.lt_length name place hother
    · exact hs.lt_length other place hother

theorem Shows.perform (hs : h.Shows w) (hopen : (w.opened name).isSome) (operation : Operation)
    (j : Journal) :
    ((Command.perform name operation).run.outcome h j).result = (w.perform (.perform name operation)).1 ∧
      ((Command.perform name operation).run.outcome h j).state.Shows
        (w.perform (.perform name operation)).2 := by
  obtain ⟨place, hplace⟩ := Option.isSome_iff_exists.mp hopen
  obtain ⟨hresult, hstate⟩ := (hs.storeOf hplace).2.perform operation j
  rw [outcome_perform, Listings.perform, hplace, hs.place_eq hplace]
  refine ⟨hresult, hs.opened, ?_, ?_⟩
  · exact forall₂_set hs.stores hstate place
  · intro other place' hother
    rw [List.length_set]
    exact hs.lt_length other place' hother

/-- A command about an open handle comes to what the listings say. -/
theorem Shows.run (hs : h.Shows w) (command : Command) (hopen : command.IsOpen w) (j : Journal) :
    (command.run.outcome h j).result = (w.perform command).1 ∧
      (command.run.outcome h j).state.Shows (w.perform command).2 := by
  cases command with
  | create name questions => exact ⟨rfl, hs.create name questions⟩
  | clone name newName => exact ⟨rfl, hs.clone hopen newName⟩
  | perform name operation => exact hs.perform hopen operation j

/-! ### What a command leaves alone -/

theorem Shows.state_of_error (hs : h.Shows w) (command : Command) (hopen : command.IsOpen w)
    (j : Journal) {f : Failure} (hresult : (command.run.outcome h j).result = .error f) :
    (command.run.outcome h j).state = h := by
  cases command with
  | create name questions => cases hresult
  | clone name newName => cases hresult
  | perform name operation =>
      obtain ⟨place, hplace⟩ := Option.isSome_iff_exists.mp hopen
      obtain ⟨hlt, hstore⟩ := List.getElem?_eq_some_iff.mp (hs.storeOf hplace).1
      rw [outcome_perform] at hresult ⊢
      rw [operation.state_of_error _ j hresult, hs.place_eq hplace, ← hstore, List.set_getElem_self]

/-- An operation through a handle is seen through those that open the same store, and no others. -/
theorem Shows.storeOf_perform (hs : h.Shows w) (hopen : (w.opened name).isSome)
    (hother : (w.opened other).isSome) (operation : Operation) (j : Journal) :
    ((Command.perform name operation).run.outcome h j).state.storeOf other =
      if h.share name other then (operation.run.outcome (h.storeOf name) j).state
      else h.storeOf other := by
  obtain ⟨place, hplace⟩ := Option.isSome_iff_exists.mp hopen
  obtain ⟨place', hplace'⟩ := Option.isSome_iff_exists.mp hother
  have hlt : place < h.stores.length := hs.length_eq ▸ hs.lt_length name place hplace
  rw [outcome_perform]
  change ((h.stores.set (h.place name) _)[h.place other]?).getD .empty = _
  rw [Handles.share, hs.place_eq hplace, hs.place_eq hplace', List.getElem?_set]
  by_cases heq : place = place'
  · rw [if_pos heq, if_pos hlt, if_pos (by simp [heq])]
    rfl
  · rw [if_neg heq, if_neg (by simp [heq]), Handles.storeOf, hs.place_eq hplace']

/-! ### Histories -/

/-- What holds of handles that show listings, and is kept by every command about an open handle, holds
along a history. -/
theorem Shows.transcript_induct {P : Done → Except Failure Reply × Listings → Prop}
    (hstep : ∀ (h : Handles) (w : Listings) (command : Command) (j : Journal), h.Shows w →
      command.IsOpen w → P ⟨h, command, command.run.outcome h j⟩ (w.perform command))
    (hs : h.Shows w) (commands : List Command) (hopen : AllOpen commands w) (j : Journal) :
    List.Forall₂ P (transcript commands h j) (w.performAll commands) := by
  induction commands generalizing h w j with
  | nil => exact .nil
  | cons command rest ih =>
      have hstate := (hs.run command hopen.1 j).2
      exact .cons (hstep h w command j hs hopen.1) (ih hstate hopen.2 _)

/-- Whatever is done with open handles, from no store on: each command gives what the listings say and
leaves stores that hold the questions of the listings; if it fails it changes nothing, and an operation
changes what is seen through just those handles that open the store it works on. -/
theorem transcript_shows (commands : List Command) (hopen : AllOpen commands .empty) (j : Journal) :
    List.Forall₂ (fun d r =>
        d.outcome.result = r.1 ∧ d.outcome.state.Shows r.2 ∧
        (∀ f, d.outcome.result = .error f → d.outcome.state = d.before) ∧
        ∀ name operation, d.command = .perform name operation →
          ∀ other, d.before.opened.contains other = true →
            (d.before.share name other = true →
              d.outcome.state.storeOf other = d.outcome.state.storeOf name) ∧
            (d.before.share name other = false →
              d.outcome.state.storeOf other = d.before.storeOf other))
      (transcript commands empty j) (Listings.empty.performAll commands) := by
  refine shows_empty.transcript_induct ?_ commands hopen j
  intro h w command j hs hcommand
  obtain ⟨hresult, hstate⟩ := hs.run command hcommand j
  refine ⟨hresult, hstate, fun f hf => hs.state_of_error command hcommand j hf, ?_⟩
  rintro name operation rfl other hother
  have hother : (w.opened other).isSome := hs.opened other ▸ hother
  have hself := hs.storeOf_perform hcommand hcommand operation j
  have hseen := hs.storeOf_perform hcommand hother operation j
  rw [if_pos (by simp [share])] at hself
  constructor
  · intro hshare
    rw [if_pos hshare] at hseen
    exact hseen.trans hself.symm
  · intro hshare
    rwa [if_neg (by simp [hshare])] at hseen

/-- Two stores and three handles: a question is replaced in its place and, once removed, stands last. -/
def shared : List Command :=
  let first (content : String) : Question :=
    { id := ⟨"1", by decide⟩, title := .text "Title", content := .text content, tags := some [] }
  let second : Question :=
    { id := ⟨"2", by decide⟩, title := .text "Title", content := .text "second", tags := none }
  [.create "main" [first "once", second, first "again"], .clone "main" "clone", .create "other" [],
    .perform "clone" (.add (first "replaced")), .perform "main" (.delete ⟨"1", by decide⟩),
    .perform "clone" (.add (first "last")), .perform "other" (.update second),
    .perform "main" (.list { window := { start := 1, stop := 9 } }), .perform "other" .clear]

theorem transcript_shows_shared : AllOpen shared .empty ∧
    (transcript shared empty .verbose).map (fun d =>
      d.outcome.state.idsByHandle.map fun (name, ids) => (name, ids.map (·.text))) =
      ([[("main", ["1", "2"])],
        [("main", ["1", "2"]), ("clone", ["1", "2"])],
        [("main", ["1", "2"]), ("clone", ["1", "2"]), ("other", [])],
        [("main", ["1", "2"]), ("clone", ["1", "2"]), ("other", [])],
        [("main", ["2"]), ("clone", ["2"]), ("other", [])],
        [("main", ["2", "1"]), ("clone", ["2", "1"]), ("other", [])],
        [("main", ["2", "1"]), ("clone", ["2", "1"]), ("other", [])],
        [("main", ["2", "1"]), ("clone", ["2", "1"]), ("other", [])],
        [("main", ["2", "1"]), ("clone", ["2", "1"]), ("other", [])]] : List (List (String × List Text))) ∧
    List.Forall₂ (fun d r => d.outcome.result = r.1 ∧ d.outcome.state.Shows r.2)
      (transcript shared empty .verbose) (Listings.empty.performAll shared) := by
  have hopen : AllOpen shared .empty :=
    ⟨trivial, rfl, trivial, rfl, rfl, rfl, rfl, rfl, rfl, trivial⟩
  refine ⟨hopen, by decide +kernel, ?_⟩
  exact (transcript_shows shared hopen .verbose).imp fun _ _ hstep => ⟨hstep.1, hstep.2.1⟩

end Handles

end QuestionBoard
