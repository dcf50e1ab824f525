import GridTalk.Proofs.Csv.RoundTrip
import GridTalk.Proofs.LetterCase.Text
import GridTalk.Proofs.Server.Lookup

/-!
# Saving a grid

The grid of a session is saved under the file name that came with it.  The name stands in a header,
where quotes are replaced; other characters are taken as they are, also those that no header can
have.

* `IsControl`, `HasControl`: the characters that no header can have, and names with one of them.
* `Session.hasControl_dropEnding`, `Session.hasControl_exportName` and
  `Reply.hasControl_dispositionOf`: a name keeps its controls on the way to the header, and no
  others get into it.
* `Session.Action.carriedName`: the file name that comes with a dataset.
* `Server.download_outcome`: what is answered when a grid is to be saved.
-/

namespace GridTalk

/-- A control other than the tab. -/
def IsControl (c : Char) : Prop := c ≠ '\t' ∧ (c.toNat < 0x20 ∨ c.toNat = 0x7F)

instance (c : Char) : Decidable (IsControl c) := inferInstanceAs (Decidable (_ ∧ _))

/-- Does a name have a control that no header can have? -/
def HasControl (name : String) : Prop := ∃ c ∈ name.toList, IsControl c

instance (name : String) : Decidable (HasControl name) :=
  decidable_of_iff (name.toList.any fun c => decide (IsControl c)) (by simp [HasControl])

theorem hasControl_append (s t : String) :
    HasControl (s ++ t) ↔ HasControl s ∨ HasControl t := by
  simp [HasControl, or_and_right, exists_or]

namespace Reply

theorem isHeaderText_eq_false_iff (s : String) : isHeaderText s = false ↔ HasControl s := by
  rw [isHeaderText, List.all_eq_false, HasControl]
  refine exists_congr fun c => and_congr_right fun _ => ?_
  by_cases htab : c = '\t'
  · simp [IsControl, htab]
  · simp only [IsControl, htab, ne_eq, not_false_eq_true, true_and, decide_false, Bool.false_or,
      Bool.and_eq_true, decide_eq_true_eq]
    omega

/-- No control comes or goes when quotes are replaced. -/
theorem hasControl_dispositionOf (name : String) :
    HasControl (dispositionOf name) ↔ HasControl name := by
  have hstart : ¬HasControl "attachment; filename=\"" := by decide +kernel
  have hend : ¬HasControl ".csv\"" := by decide +kernel
  unfold dispositionOf
  rw [hasControl_append, hasControl_append, or_iff_left hend, or_iff_right hstart]
  simp only [HasControl, String.toList_ofList, List.mem_map]
  constructor
  · rintro ⟨-, ⟨c, hc, rfl⟩, hcontrol⟩
    split at hcontrol
    · exact absurd hcontrol (by decide)
    · exact ⟨c, hc, hcontrol⟩
  · rintro ⟨c, hc, hcontrol⟩
    have hne : c ≠ '"' := by
      rintro rfl
      exact absurd hcontrol (by decide)
    exact ⟨c, ⟨c, hc, if_neg hne⟩, hcontrol⟩

/-- A file is sent unless its name has a control. -/
theorem ofFile_eq (body name : String) :
    ofFile body name
      = if HasControl name then bare 500 else csv csvType (dispositionOf name) body := by
  rw [ofFile]
  by_cases hcontrol : HasControl name
  · have hheader : isHeaderText (dispositionOf name) = false :=
      (isHeaderText_eq_false_iff _).2 ((hasControl_dispositionOf name).2 hcontrol)
    rw [if_pos hcontrol, if_neg (by simp [hheader])]
  · have hheader : isHeaderText (dispositionOf name) = true := by
      rw [← Bool.not_eq_false, isHeaderText_eq_false_iff, hasControl_dispositionOf]
      exact hcontrol
    rw [if_neg hcontrol, if_pos hheader]

/-- The header that names the file of an answer. -/
def disposition? : Reply → Option String
  | csv _ disposition _ => some disposition
  | _ => none

end Reply

namespace Session

/-! ### The name of a file -/

/-- A control is none of the letters, in any case, that an ending has. -/
theorem isControl_of_toLower {c : Char} (h : IsControl c) : c.toLower = c := by
  have hall : ∀ c : Char, c.toNat < 128 → IsControl c → c.toLower = c :=
    Text.forall_ascii (by decide)
  exact hall c (by rcases h.2 with h | h <;> omega) h

theorem not_isControl_of_mem_ending {e : String} (he : e ∈ uploadEndings) {c : Char}
    (hc : c ∈ e.toList) : ¬IsControl c := by
  have hall : ∀ e ∈ uploadEndings, ∀ c ∈ e.toList, ¬IsControl c := by decide +kernel
  exact hall e he c hc

/-- No control goes with the ending of a file name. -/
theorem hasControl_dropEnding (name : String) : HasControl (dropEnding name) ↔ HasControl name := by
  unfold dropEnding
  dsimp only
  split
  · next e hfind =>
    have he : e ∈ uploadEndings := List.mem_of_find?_eq_some hfind
    have hsuffix : e.toList <:+ name.toList.map Char.toLower := by
      simpa using List.find?_some hfind
    -- the characters that go are those of the ending, but for their case
    have hdropped : (name.toList.drop (name.toList.length - e.toList.length)).map Char.toLower
        = e.toList := by
      rw [List.map_drop]
      simpa using (List.suffix_iff_eq_drop.1 hsuffix).symm
    have hplain : ∀ c ∈ name.toList.drop (name.toList.length - e.toList.length), ¬IsControl c := by
      intro c hc hcontrol
      have hmem : c.toLower ∈ e.toList := hdropped ▸ List.mem_map_of_mem hc
      rw [isControl_of_toLower hcontrol] at hmem
      exact not_isControl_of_mem_ending he hmem hcontrol
    simp only [HasControl, String.toList_ofList]
    constructor
    · rintro ⟨c, hc, hcontrol⟩
      exact ⟨c, List.mem_of_mem_take hc, hcontrol⟩
    · rintro ⟨c, hc, hcontrol⟩
      rw [← List.take_append_drop (name.toList.length - e.toList.length) name.toList,
        List.mem_append] at hc
      rcases hc with hc | hc
      · exact ⟨c, hc, hcontrol⟩
      · exact absurd hcontrol (hplain c hc)
  · exact Iff.rfl

/-- The name under which a grid is saved has the controls of its file name. -/
theorem hasControl_exportName (session : Session) :
    HasControl session.exportName ↔ HasControl session.fileName := by
  have hupdated : ¬HasControl "-updated" := by decide +kernel
  rw [exportName, hasControl_append, or_iff_left hupdated]
  split
  · next hempty =>
    rw [hempty]
    decide +kernel
  · exact Iff.rfl

/-- The file name that comes with a dataset, with its ending. -/
def Action.carriedName : Action → String
  | load _ _ fileName => fileName
  | loadUpload _ _ fileName => fileName
  | run _ => ""

theorem hasControl_carriedName {load : Action} {d : Dataset} (hload : load.dataset? = some d) :
    HasControl d.fileName ↔ HasControl load.carriedName := by
  cases load with
  | load rows sheetName fileName =>
    cases hload
    exact Iff.rfl
  | loadUpload rows sheetName fileName =>
    cases hload
    exact hasControl_dropEnding fileName
  | run text => cases hload

/-- A session that has a grid got it with its last load, has the file name that came with it, and
keeps the grid well formed. -/
theorem exists_load_of_grid {limit : Nat} {actions : List Action} {g : Grid}
    (hgrid : ((new limit).afterAll actions).grid = some g) :
    ∃ before load d, ∃ texts : List String,
      actions = before ++ load :: texts.map .run ∧ load.dataset? = some d ∧
        ((new limit).afterAll actions).fileName = d.fileName ∧ g.WellFormed := by
  rcases actions_cases actions with ⟨texts, rfl⟩ | ⟨before, load, d, texts, rfl, hload⟩
  · rw [afterAll_map_run, runAll_of_grid_eq_none rfl] at hgrid
    cases hgrid
  · have hstart := replays_after_load hload ((new limit).afterAll before)
    have hafter : (new limit).afterAll (before ++ load :: texts.map .run)
        = (((new limit).afterAll before).after load).runAll texts := by
      rw [afterAll_append, ← afterAll_map_run]
      rfl
    obtain ⟨g₀, hg₀, hgrid₀⟩ := hstart.grid_eq
    cases hg₀
    obtain ⟨g', hgrid', hg'⟩ := wellFormed_runAll (Grid.wellFormed_ofRows d.rows) hgrid₀ texts
    rw [hafter] at hgrid ⊢
    obtain rfl := Option.some.inj (hgrid'.symm.trans hgrid)
    exact ⟨before, load, d, texts, rfl, hload, (hstart.runAll texts).fileName_eq, hg'⟩

end Session

namespace Server

variable {server : Server} {id : SessionId} {r : Request} {segment : String}

/-- Who asks for the grid of a session as a file is given it. -/
theorem respond_csv (hendpoint : r.endpoint? = some (.csv segment)) (hmethod : r.method = .get)
    (haddressee : r.addressee? = some id) (server : Server) (fresh : SessionId) :
    server.respond fresh r = (replyTo r (server.exportCsv id).1, (server.exportCsv id).2) := by
  have hid : sessionIdOf? segment = some id := by
    simpa [Request.addressee?, hendpoint, Endpoint.sessionText?] using haddressee
  have houtcome : outcomeOf server fresh (.csv segment) r = server.exportCsv id := by
    simp [outcomeOf, methodOf, hmethod, serve?, withId, hid]
  rw [respond_of_endpoint hendpoint (by simp [hmethod]), houtcome]

/-- The answer depends on the file name only. -/
theorem respond_csv_of_grid {session : Session} {g : Grid}
    (hendpoint : r.endpoint? = some (.csv segment)) (hmethod : r.method = .get)
    (haddressee : r.addressee? = some id) (hfind : server.find? id = some session)
    (hgrid : session.grid = some g) (hg : g.WellFormed) (fresh : SessionId) :
    server.respond fresh r
      = (if HasControl session.fileName then .bare 500
          else .csv Reply.csvType (Reply.dispositionOf session.exportName) (Csv.writeGrid g),
        server) := by
  have hanswer : exportAnswer session
      = .ok (.ofFile (Csv.writeGrid g) session.exportName) := by
    simp only [exportAnswer, hgrid, Csv.exportGrid_of_wellFormed hg]
  rw [respond_csv hendpoint hmethod haddressee, exportCsv_eq, withSession_of_find? hfind, hanswer,
    replyTo, if_neg (by simp [hmethod])]
  simp only [Reply.ofFile_eq, Session.hasControl_exportName]

/-- **A grid is saved** under the name that came with it, whatever has been done to it since, as
long as this name has no control.  The name loses its ending, an empty one is replaced, and so are
the quotes.  A name with a control is taken as it is, and then the request fails. -/
theorem download_outcome (limit maxSessions : Nat) (arrivals : List Arrival)
    (hfresh : (openedIds ((new limit maxSessions).trace arrivals)).Nodup) (id : SessionId)
    (session : Session) (g : Grid)
    (hfind : ((new limit maxSessions).runAll arrivals).find? id = some session)
    (hgrid : session.grid = some g) :
    let server := (new limit maxSessions).runAll arrivals
    let own := ((new limit maxSessions).trace arrivals).filter (Exchange.concerns id)
    ∃ before load d, ∃ texts : List String,
      actionsSince own = before ++ load :: texts.map .run ∧ load.dataset? = some d ∧
        Csv.exportGrid g = .ok (Csv.writeGrid g) ∧
        ∀ (r : Request) (fresh : SessionId) (segment : String),
          r.endpoint? = some (.csv segment) → r.addressee? = some id → r.method = .get →
          let name := (if d.fileName = "" then "excel-agent" else d.fileName) ++ "-updated"
          let quoted := name.toList.map fun c => if c = '"' then '_' else c
          server.respond fresh r
            = (if HasControl load.carriedName then .bare 500
                else .csv "text/csv; charset=utf-8"
                  ("attachment; filename=\"" ++ String.ofList quoted ++ ".csv\"")
                  (Csv.writeGrid g), server) := by
  intro server own
  obtain ⟨-, hmirrors⟩ := mirrors_run limit maxSessions arrivals id hfresh
  obtain ⟨-, hsession⟩ := (hmirrors.find?_iff session).1 hfind
  obtain ⟨before, load, d, texts, hactions, hload, hname, hg⟩ :=
    Session.exists_load_of_grid (hsession ▸ hgrid)
  rw [← hsession] at hname
  refine ⟨before, load, d, texts, hactions, hload, Csv.exportGrid_of_wellFormed hg,
    fun r fresh segment hendpoint haddressee hmethod => ?_⟩
  rw [respond_csv_of_grid hendpoint hmethod haddressee hfind hgrid hg, hname,
    Session.exportName, hname]
  simp only [Session.hasControl_carriedName hload]
  rfl

/-- The second session asked for its grid. -/
def savingCall : Arrival :=
  ⟨⟨3⟩, .get, "/api/sessions/00000000-0000-0000-0000-000000000002/csv", none, ""⟩

/-- The built-in dataset is saved under its own name. -/
theorem download_outcome_sample :
    let server := (new 3 2).runAll twoSessions
    (openedIds ((new 3 2).trace twoSessions)).Nodup ∧
      ∃ session g, server.find? ⟨2⟩ = some session ∧ session.grid = some g ∧
        server.respond savingCall.fresh savingCall.request
          = (.csv "text/csv; charset=utf-8"
              "attachment; filename=\"sample-workforce-updated.csv\"" (Csv.writeGrid g),
              server) := by
  have hfresh : (openedIds ((new 3 2).trace twoSessions)).Nodup := by decide +kernel
  have hlive : ((((new 3 2).runAll twoSessions).find? ⟨2⟩).bind Session.grid).isSome := by
    decide +kernel
  obtain ⟨g, hbind⟩ := Option.isSome_iff_exists.1 hlive
  obtain ⟨session, hfind, hgrid⟩ := Option.bind_eq_some_iff.1 hbind
  have hendpoint : savingCall.request.endpoint?
      = some (.csv "00000000-0000-0000-0000-000000000002") := by decide +kernel
  have haddressee : savingCall.request.addressee? = some ⟨2⟩ := by decide +kernel
  have hname : (((new 3 2).runAll twoSessions).respond savingCall.fresh
      savingCall.request).1.disposition?
      = some "attachment; filename=\"sample-workforce-updated.csv\"" := by decide +kernel
  obtain ⟨-, load, d, -, -, -, -, hrespond⟩ :=
    download_outcome 3 2 twoSessions hfresh ⟨2⟩ session g hfind hgrid
  have hreply := hrespond savingCall.request savingCall.fresh _ hendpoint haddressee rfl
  dsimp only at hreply
  refine ⟨hfresh, session, g, hfind, hgrid, ?_⟩
  rw [hreply] at hname
  by_cases hcontrol : HasControl load.carriedName
  · rw [if_pos hcontrol] at hname
    cases hname
  · rw [if_neg hcontrol] at hname hreply
    rw [hreply, ← Option.some.inj hname]

/-- A grid with a line feed in its file name is not sent, although nothing is wrong with it. -/
theorem download_line_feed :
    let arrivals := [posting ⟨2⟩ "/api/sessions"
      "\x7b\"rows\": [[\"n\"]], \"fileName\": \"a\\nb\"\x7d"]
    let server := (new 3 2).runAll arrivals
    (openedIds ((new 3 2).trace arrivals)).Nodup ∧
      (server.find? ⟨2⟩).bind Session.grid = some ⟨[[.text "n"]]⟩ ∧
      (server.respond savingCall.fresh savingCall.request).1.status? = some 500 := by
  decide +kernel

end Server
end GridTalk
