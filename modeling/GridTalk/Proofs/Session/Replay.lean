import GridTalk.Proofs.Session.Growth
import Mathlib.Data.List.Induction

/-!
# A session as a replay

A session is what its confirmed instructions, carried out again, make of the dataset that was loaded
last.  Instructions that failed have left no trace, and neither has anything from before the load.

* `Session.Action`, `Session.afterAll`: what can be done to a session, and what it is afterwards.
* `replay`: what instructions make of a grid when none of them fails.
* `Session.confirmed`: which of some instructions succeed, with their edits.
* `Session.Replays`: the invariant, kept by `Replays.run` and `Replays.runAll`.
* `Session.replays_afterAll`: it holds after any actions.
-/

namespace GridTalk

/-- Rows of cells and the names under which they are loaded. -/
structure Dataset where
  rows : List (List Cell)
  sheetName : String
  fileName : String

/-- What instructions make of a grid, one after the other; all of them have to succeed. -/
def replay (g : Grid) (texts : List String) : Except SheetError Grid :=
  texts.foldlM (fun g text => (applyInstruction g text).map Edit.grid) g

theorem replay_append_singleton {g g' : Grid} {texts : List String} {text : String} {edit : Edit}
    (h : replay g texts = .ok g') (happly : applyInstruction g' text = .ok edit) :
    replay g (texts ++ [text]) = .ok edit.grid := by
  unfold replay at h ⊢
  rw [List.foldlM_append, h]
  simp [bind, Except.bind, happly, Except.map, pure, Except.pure]

namespace Session

/-- What can be done to a session. -/
inductive Action
  /-- Another dataset. -/
  | load (rows : List (List Cell)) (sheetName fileName : String)
  /-- Another dataset, from a file. -/
  | loadUpload (rows : List (List Cell)) (sheetName fileName : String)
  /-- One instruction. -/
  | run (text : String)

/-- The dataset that an action loads. -/
def Action.dataset? : Action → Option Dataset
  | load rows sheetName fileName => some ⟨rows, sheetName, fileName⟩
  | loadUpload rows sheetName fileName => some ⟨rows, sheetName, dropEnding fileName⟩
  | run _ => none

/-- The session after an action. -/
def after (session : Session) : Action → Session
  | .load rows sheetName fileName => session.load rows sheetName fileName
  | .loadUpload rows sheetName fileName => session.loadUpload rows sheetName fileName
  | .run text => (session.run text).2

/-- The session after some actions. -/
def afterAll (session : Session) (actions : List Action) : Session := actions.foldl after session

/-- The instructions that succeed when these are run, each with its edit. -/
def confirmed (session : Session) : List String → List (String × Edit)
  | [] => []
  | text :: texts =>
    match session.run text with
    | (.ok edit, next) => (text, edit) :: next.confirmed texts
    | (.error _, next) => next.confirmed texts

/-- The session is what instructions, given with their edits, make of a dataset.  Its log has their
messages, newest first, as far as the limit lets them stand. -/
structure Replays (session : Session) (limit : Nat) (d : Dataset) (done : List (String × Edit)) :
    Prop where
  grid_eq : ∃ g, replay (Grid.ofRows d.rows) (done.map Prod.fst) = .ok g ∧ session.grid = some g
  sheetName_eq : session.sheetName = d.sheetName
  fileName_eq : session.fileName = d.fileName
  limit_eq : session.log.limit = limit
  entries_eq :
    let messages := (done.map fun confirmation => confirmation.2.message).reverse
    session.log.entries = if limit = 0 then messages else messages.take limit

variable {session : Session} {limit : Nat} {d : Dataset} {done : List (String × Edit)}

/-! ### Runs -/

theorem run_of_grid_eq_none (h : session.grid = none) (text : String) :
    session.run text = (.error .noDataset, session) := by
  rw [run, h]

/-- With a dataset the outcome is that of the instruction on the grid. -/
theorem run_fst_of_grid_eq_some {g : Grid} (h : session.grid = some g) (text : String) :
    (session.run text).1 = applyInstruction g text := by
  rw [run, h]
  dsimp only
  cases applyInstruction g text <;> rfl

/-- A failure leaves the session as it was. -/
theorem run_snd_of_error {text : String} {e : SheetError}
    (h : (session.run text).1 = .error e) : (session.run text).2 = session := by
  unfold run at h ⊢
  split
  · rfl
  · split
    · rfl
    · next hgrid _ _ happly => simp [hgrid, happly] at h

/-- What a success does to the session. -/
theorem run_of_ok {text : String} {edit : Edit} (h : (session.run text).1 = .ok edit) :
    ∃ g, session.grid = some g ∧ applyInstruction g text = .ok edit ∧
      (session.run text).2
        = { session with grid := some edit.grid, log := session.log.record edit.message } := by
  cases hgrid : session.grid with
  | none => simp [run_of_grid_eq_none hgrid] at h
  | some g =>
    cases happly : applyInstruction g text with
    | error e => simp [run, hgrid, happly] at h
    | ok edit' =>
      have heq : edit' = edit := by simpa [run, hgrid, happly] using h
      subst heq
      exact ⟨g, rfl, happly, by simp [run, hgrid, happly]⟩

/-- After a success there is a grid, the one of the edit. -/
theorem grid_of_run {text : String} {edit : Edit} {stored : Session}
    (h : session.run text = (.ok edit, stored)) : stored.grid = some edit.grid := by
  obtain ⟨g, -, -, hstored⟩ := run_of_ok (congrArg Prod.fst h)
  rw [h] at hstored
  exact congrArg Session.grid hstored

theorem confirmed_cons_of_ok {text : String} {edit : Edit} (h : (session.run text).1 = .ok edit)
    (texts : List String) :
    session.confirmed (text :: texts) = (text, edit) :: (session.run text).2.confirmed texts := by
  rw [confirmed]
  split
  · next heq => simp_all
  · next heq => simp_all

theorem confirmed_cons_of_error {text : String} {e : SheetError}
    (h : (session.run text).1 = .error e) (texts : List String) :
    session.confirmed (text :: texts) = (session.run text).2.confirmed texts := by
  rw [confirmed]
  split
  · next heq => simp_all
  · next heq => simp_all

/-- Cutting a log each time a message comes in is cutting it once. -/
theorem entries_record {log : Log} {messages : List String} (hlimit : log.limit = limit)
    (h : log.entries = if limit = 0 then messages else messages.take limit) (message : String) :
    (log.record message).entries
      = if limit = 0 then message :: messages else (message :: messages).take limit := by
  cases limit with
  | zero => simp_all [Log.record, Log.keep]
  | succ n =>
    simp only [Log.record, Log.keep, hlimit, h, Nat.succ_pos, if_true, if_neg (Nat.succ_ne_zero n),
      List.take_succ_cons, List.take_take]
    rw [Nat.min_eq_left (Nat.le_succ n)]

namespace Replays

/-- A success is one more instruction to replay. -/
theorem run (h : session.Replays limit d done) {text : String} {edit : Edit}
    (hok : (session.run text).1 = .ok edit) :
    (session.run text).2.Replays limit d (done ++ [(text, edit)]) := by
  obtain ⟨g, hgrid, happly, hnext⟩ := run_of_ok hok
  obtain ⟨g', hreplay, hgrid'⟩ := h.grid_eq
  rw [hgrid] at hgrid'
  cases hgrid'
  rw [hnext]
  refine ⟨⟨edit.grid, ?_, rfl⟩, h.sheetName_eq, h.fileName_eq, h.limit_eq, ?_⟩
  · rw [List.map_append]
    exact replay_append_singleton hreplay happly
  · have hentries := entries_record h.limit_eq h.entries_eq edit.message
    simpa using hentries

/-- Of some instructions those that succeed have to be replayed. -/
theorem runAll (h : session.Replays limit d done) (texts : List String) :
    (session.runAll texts).Replays limit d (done ++ session.confirmed texts) := by
  induction texts generalizing session done with
  | nil =>
    rw [confirmed, List.append_nil]
    exact h
  | cons text texts ih =>
    cases hresult : (session.run text).1 with
    | ok edit =>
      have hnext := ih (h.run hresult)
      rwa [List.append_assoc, List.singleton_append, ← confirmed_cons_of_ok hresult] at hnext
    | error e =>
      have hsame : (session.run text).2.Replays limit d done := by
        rwa [run_snd_of_error hresult]
      have hnext := ih hsame
      rwa [← confirmed_cons_of_error hresult] at hnext

end Replays

/-! ### Actions -/

theorem limit_run (session : Session) (text : String) :
    (session.run text).2.log.limit = session.log.limit := by
  cases hresult : (session.run text).1 with
  | error e => rw [run_snd_of_error hresult]
  | ok edit =>
    obtain ⟨g, -, -, hnext⟩ := run_of_ok hresult
    rw [hnext]
    rfl

/-- No action changes how many messages are kept. -/
theorem limit_afterAll (session : Session) (actions : List Action) :
    (session.afterAll actions).log.limit = session.log.limit := by
  induction actions generalizing session with
  | nil => rfl
  | cons action actions ih =>
    refine (ih (session.after action)).trans ?_
    cases action with
    | load rows sheetName fileName => rfl
    | loadUpload rows sheetName fileName => rfl
    | run text => exact limit_run session text

theorem afterAll_append (session : Session) (actions actions' : List Action) :
    session.afterAll (actions ++ actions') = (session.afterAll actions).afterAll actions' :=
  List.foldl_append

theorem afterAll_map_run (session : Session) (texts : List String) :
    session.afterAll (texts.map .run) = session.runAll texts :=
  List.foldl_map

/-- After a load nothing has to be replayed. -/
theorem replays_after_load {load : Action} (hload : load.dataset? = some d) (session : Session) :
    (session.after load).Replays session.log.limit d [] := by
  cases load with
  | load rows sheetName fileName =>
    cases hload
    exact ⟨⟨_, rfl, rfl⟩, rfl, rfl, rfl, by simp [after, Session.load, Log.clear, Log.empty]⟩
  | loadUpload rows sheetName fileName =>
    cases hload
    exact ⟨⟨_, rfl, rfl⟩, rfl, rfl, rfl,
      by simp [after, loadUpload, Session.load, Log.clear, Log.empty]⟩
  | run text => cases hload

/-- Either no dataset has been loaded, or only instructions have been run since the last load. -/
theorem actions_cases (actions : List Action) :
    (∃ texts : List String, actions = texts.map .run) ∨
    ∃ before load d, ∃ texts : List String,
      actions = before ++ load :: texts.map .run ∧ load.dataset? = some d := by
  induction actions using List.reverseRecOn with
  | nil => exact .inl ⟨[], rfl⟩
  | append_singleton actions action ih =>
    cases hload : action.dataset? with
    | some d => exact .inr ⟨actions, action, d, [], by simp, hload⟩
    | none =>
      obtain ⟨text, rfl⟩ : ∃ text, action = .run text := by
        cases action with
        | run text => exact ⟨text, rfl⟩
        | load rows sheetName fileName => cases hload
        | loadUpload rows sheetName fileName => cases hload
      rcases ih with ⟨texts, rfl⟩ | ⟨before, load, d, texts, rfl, hd⟩
      · exact .inl ⟨texts ++ [text], by simp⟩
      · exact .inr ⟨before, load, d, texts ++ [text], by simp, hd⟩

theorem runAll_of_grid_eq_none (h : session.grid = none) (texts : List String) :
    session.runAll texts = session := by
  induction texts with
  | nil => rfl
  | cons text texts ih =>
    rw [runAll, List.foldl_cons, run_of_grid_eq_none h]
    exact ih

/-- **A session replays its confirmed instructions.**  After any actions an instruction has the
outcome that it has on the grid, and if it fails it leaves the session as it is.  As long as no
dataset has been loaded the session is new and every instruction fails for that cause; else it
replays on the dataset loaded last the instructions that have succeeded since. -/
theorem replays_afterAll (limit : Nat) (actions : List Action) :
    let session := (new limit).afterAll actions
    (∀ text, (∀ g, session.grid = some g → (session.run text).1 = applyInstruction g text) ∧
      ∀ e, (session.run text).1 = .error e → (session.run text).2 = session) ∧
    ((∃ texts : List String, actions = texts.map .run ∧ session = new limit ∧
        ∀ text, session.run text = (.error .noDataset, session)) ∨
      ∃ before load d, ∃ texts : List String,
        actions = before ++ load :: texts.map .run ∧ load.dataset? = some d ∧
          session.Replays limit d
            (((new limit).afterAll (before ++ [load])).confirmed texts)) := by
  intro session
  refine ⟨fun text => ⟨fun g h => ?_, fun e h => run_snd_of_error h⟩, ?_⟩
  · exact run_fst_of_grid_eq_some h text
  rcases actions_cases actions with ⟨texts, rfl⟩ | ⟨before, load, d, texts, rfl, hload⟩
  · have hnew : session = new limit :=
      (afterAll_map_run _ texts).trans (runAll_of_grid_eq_none rfl texts)
    refine .inl ⟨texts, rfl, hnew, run_of_grid_eq_none ?_⟩
    rw [hnew]
    rfl
  · have hstart := replays_after_load hload ((new limit).afterAll before)
    rw [limit_afterAll] at hstart
    have hend := hstart.runAll texts
    have hload' : (new limit).afterAll (before ++ [load])
        = ((new limit).afterAll before).after load := afterAll_append _ before [load]
    have hsession : session = (((new limit).afterAll before).after load).runAll texts := by
      rw [← afterAll_map_run]
      exact afterAll_append _ before (load :: texts.map .run)
    refine .inr ⟨before, load, d, texts, rfl, hload, ?_⟩
    rw [hload', hsession]
    exact hend

end Session

end GridTalk
