import Kanban.Proofs.Bodies
import Kanban.Proofs.Distance

/-!
# Reads that are asked for again

A client keeps the answer to a read with its tag, and asks again with that tag. Whatever happened in
between, it is told that nothing has changed only if the body is still the same, and it gets the new
body otherwise (`Http.never_stale`): the tag is the digest of a text that tells the body, so only two
texts with one digest could deceive it. An answer of any other kind has no tag, and does not depend
on the one that the client sends.
-/

namespace Kanban

open Work

namespace Http

/-! ## Reads -/

/-- A route whose reads show the board. -/
def Route.ReadsBoard : Route → Prop
  | .board | .column _ => True
  | .tasks | .task _ | .reorder | .live | .ready | .startup | .file => False

/-- The answer to a client whose body is current, as it is sent. -/
def current (body : Json) : Answer :=
  { Answer.notModified (EntityTag.ofJson body) with mediaType := none }

variable {s : Service} {code : String} {c : Conditions} {b : Board} {route : Route} {body : Json}

/-- A client that has the body already is told so. -/
theorem tagged_json_of_current (body : Json) :
    (Answer.json 200 body).tagged (some (EntityTag.ofJson body)) =
      Answer.notModified (EntityTag.ofJson body) := by
  rw [Answer.tagged, if_pos (show (Answer.json 200 body).isTaggable from rfl)]
  exact if_pos rfl

theorem sent_notModified {r : Request} (h : routed? r = some (route, .get)) (body : Json) :
    sent r.method (.notModified (EntityTag.ofJson body)) = current body := by
  rw [sent, if_neg (method_ne_head h)]
  rfl

theorem tagged_of_status {a : Answer} (h : a.status ≠ 200) (tag : Option String) :
    a.tagged tag = a := by
  simp [Answer.tagged, Answer.isTaggable, h]

/-- What a view returns under another status is answered as it is, whatever tag the client sends. -/
theorem Returned.answer?_of_status {returned : Returned} {a : Answer}
    (ha : returned.view.answer? returned.status = some a) (h : a.status ≠ 200) (tag : Option String) :
    returned.answer? tag = some a := by
  rw [Returned.answer?, ha, Option.map_some, tagged_of_status h]

/-- An answer that tells of a failure. It has no tag. -/
def Answer.Refuses (a : Answer) : Prop := 400 ≤ a.status ∧ a.tag = none

theorem Answer.Refuses.status_ne {a : Answer} (h : a.Refuses) : a.status ≠ 200 := by
  have := h.1
  omega

/-- A view that only looks, and is refused by the ordering engine, answers with the notice. -/
theorem viewed_refused {w : Work Returned} {e : Failure} (h : w c b = refused e c b) :
    ∃ a : Answer, a.Refuses ∧ ∀ tag, viewed tag w c b = (a, b) := by
  cases hnotice : Notice.ofFailure? e with
  | none =>
    have hfailed : w c b = (.error e, b) := by
      rw [h, refused, hnotice]
      rfl
    exact ⟨.page 500, ⟨by decide, rfl⟩, fun tag => viewed_of_error hfailed⟩
  | some notice =>
    have hanswer : (View.answer (.json 200 notice.toJson)).answer? (some notice.kind.status) =
        some (.json notice.kind.status notice.toJson) := by
      cases notice.kind <;> rfl
    have hrefuses : (Answer.json notice.kind.status notice.toJson).Refuses :=
      ⟨le_status_kind _, rfl⟩
    refine ⟨_, hrefuses, fun tag => ?_⟩
    have hread : w c b = (.ok ⟨.answer (.json 200 notice.toJson), some notice.kind.status⟩, b) := by
      rw [h, refused, hnotice]
      rfl
    exact viewed_of_ok hread (Returned.answer?_of_status hanswer hrefuses.status_ne tag)

/-- A read shows the board, or it fails. The tag that the client sends only changes how the answer
is put. -/
theorem perform_of_readsBoard (hroute : route.ReadsBoard) {verb : Verb} (hverb : verb ≠ .options)
    (s : Service) (code : String) (content : Content) (c : Conditions) (b : Board) :
    ∃ a : Answer, ((∃ body, Shows b route body ∧ a = .json 200 body) ∨ a.Refuses) ∧
      ∀ tag, perform s code content tag route verb c b = (a.tagged tag, b) := by
  have hpage : (Answer.page 500).Refuses := ⟨by decide, rfl⟩
  cases route with
  | board =>
    have hperform : ∀ tag, perform s code content tag .board verb c b = viewed tag readBoard c b := by
      intro tag
      cases verb with
      | options => exact absurd rfl hverb
      | _ => rfl
    -- what is read does not depend on the tag, which is compared only afterwards
    simp only [hperform]
    cases hc : c.refusal? .query with
    | none => exact ⟨_, .inl ⟨_, .board, rfl⟩, viewed_readBoard hc⟩
    | some refusal =>
      refine ⟨.page 500, .inr hpage, fun tag => ?_⟩
      rw [tagged_of_status hpage.status_ne]
      exact viewed_of_error (query_of_refused hc)
  | column n =>
    have hperform : ∀ tag, perform s code content tag (.column n) verb c b =
        viewed tag (readColumn n) c b := by
      intro tag
      cases verb with
      | options => exact absurd rfl hverb
      | _ => rfl
    simp only [hperform]
    cases hfound : Store.columnIn n b with
    | error e =>
      obtain ⟨a, ha, hviewed⟩ := viewed_refused (readColumn_of_error (c := c) hfound)
      exact ⟨a, .inr ha, fun tag => by rw [hviewed, tagged_of_status ha.status_ne]⟩
    | ok column =>
      -- the column was found by its key, and its tasks are asked for next
      have hcolumn := Store.columnIn_eq_ok hfound
      have hfits : Stored.Fits n := by
        obtain ⟨id, hid, -⟩ := except_bind_eq_ok.mp hfound
        exact (Stored.integer_eq_ok hid).1
      cases hc : c.refusal? .query with
      | none => exact ⟨_, .inl ⟨_, .column hfits hcolumn, rfl⟩, viewed_readColumn hcolumn hfits hc⟩
      | some refusal =>
        refine ⟨.page 500, .inr hpage, fun tag => ?_⟩
        rw [tagged_of_status hpage.status_ne]
        exact viewed_of_error ((readColumn_of_ok hfound).trans (query_of_refused hc))
  | tasks | task id | reorder | live | ready | startup | file => cases hroute

/-- What is shown of a board is what a read answers, in full or as unchanged. -/
theorem Shows.respond (h : Shows b route body) {r : Request} (hr : routed? r = some (route, .get))
    (hc : c.refusal? .query = none) (s : Service) (code : String) :
    respond s code r c b =
      (if r.ifNoneMatch = some (EntityTag.ofJson body) then current body else fresh body, b) := by
  have hperform : perform s code r.content r.ifNoneMatch route .get c b =
      ((Answer.json 200 body).tagged r.ifNoneMatch, b) := by
    cases h with
    | board => exact viewed_readBoard hc r.ifNoneMatch
    | column hfits hcolumn => exact viewed_readColumn hcolumn hfits hc r.ifNoneMatch
  rw [respond_of_routed hr, hperform]
  split
  · next hcurrent => rw [hcurrent, tagged_json_of_current, sent_notModified hr]
  · next hfresh => rw [tagged_json hfresh, sent_of_get hr rfl]

/-- A read that is answered in full shows the board. -/
theorem shows_of_status {r : Request} (hr : routed? r = some (route, .get))
    (hroute : route.ReadsBoard) (h : (Http.respond s code r c b).1.status = 200) :
    ∃ body, Shows b route body ∧ Http.respond s code r c b = (fresh body, b) := by
  obtain ⟨a, ha, hperform⟩ :=
    perform_of_readsBoard hroute (by decide : Verb.get ≠ .options) s code r.content c b
  rw [respond_of_routed hr, hperform] at h ⊢
  rcases ha with ⟨body, hshows, rfl⟩ | hrefuses
  · refine ⟨body, hshows, ?_⟩
    by_cases hcurrent : r.ifNoneMatch = some (EntityTag.ofJson body)
    · rw [hcurrent, tagged_json_of_current, sent_notModified hr] at h
      have hstatus : (304 : Int) = 200 := h
      exact absurd hstatus (by decide)
    · rw [tagged_json hcurrent, sent_of_get hr rfl]
  · rw [tagged_of_status hrefuses.status_ne] at h
    dsimp only at h
    rw [status_sent] at h
    exact absurd h hrefuses.status_ne

/-! ## Other answers -/

theorem tag_sent (method : String) (a : Answer) : (sent method a).tag = a.tag := by
  unfold sent
  split <;> split <;> rfl

theorem tag_ofFailure (f : Failure) : (Answer.ofFailure f).tag = none := by
  unfold Answer.ofFailure
  split <;> rfl

/-- The answer about an operation has no tag, whether it succeeds or fails. -/
theorem tag_answered_performAsked (code : String) {asked : Work (Spacing × Operation.Request)}
    (hread : asked.ReadOnly) (c : Conditions) (b : Board) :
    (answered (performAsked code asked) c b).1.tag = none := by
  cases hasked : (asked c b).1 with
  | error f =>
    rw [answered_of_refused hasked]
    exact tag_ofFailure f
  | ok found =>
    rcases answered_of_asked code hread hasked with ⟨o, b', -, ha⟩ | ⟨f, -, ha⟩
    · rw [ha]
      cases o <;> rfl
    · rw [ha]
      exact tag_ofFailure f

/-- Where no board is read and no operation asked for, nothing is tagged, and the tag that the client
sends is not looked at. -/
theorem perform_untagged {config : Config} {content : Content} {verb : Verb}
    (hverb : verb ∈ route.verbs) (hasked : asked? config content route verb = none)
    (h : ¬(route.ReadsBoard ∧ verb ≠ .options)) (s : Service) (code : String) (c : Conditions)
    (b : Board) :
    ∃ a : Answer, a.tag = none ∧
      ∀ ifNoneMatch, (perform s code content ifNoneMatch route verb c b).1 = a := by
  cases verb with
  | options => exact ⟨.page 200, rfl, fun _ => by cases route <;> rfl⟩
  | get | head =>
    cases route with
    | board | column n => exact absurd ⟨trivial, by decide⟩ h
    | live => exact ⟨liveAnswer, rfl, fun _ => rfl⟩
    | ready => exact ⟨readyAnswer c, rfl, fun _ => rfl⟩
    | startup => exact ⟨startupAnswer s.report, by cases s.report <;> rfl, fun _ => rfl⟩
    | file => exact ⟨.page 404, rfl, fun _ => rfl⟩
    | tasks | task id | reorder => cases hasked
  | post | put | delete =>
    cases route with
    | tasks | task id | reorder => cases hasked
    | board | column n | live | ready | startup | file => simp [Route.verbs] at hverb

/-- The tag that the client sends has no part in where a request leads. -/
theorem routed?_with (r : Request) (ifNoneMatch : Option String) :
    routed? { r with ifNoneMatch := ifNoneMatch } = routed? r := by
  simp only [routed?]

/-- A request that no route takes is answered with a page. -/
theorem respond_page {r : Request} (h : routed? r = none) (s : Service) (code : String)
    (c : Conditions) (b : Board) :
    ∃ status, ∀ ifNoneMatch,
      respond s code { r with ifNoneMatch := ifNoneMatch } c b = (.page status, b) := by
  unfold routed? at h
  unfold respond
  dsimp only
  -- a path with a route may still have no such method; all others end in a page whatever is sent
  split at h
  · next route hroute =>
    rw [hroute]
    dsimp only [answerAt]
    rw [Option.map_eq_none_iff.mp h]
    exact ⟨405, fun _ => rfl⟩
  · next hunknown =>
    split
    · next route hroute => exact absurd hroute (hunknown route)
    · next route _ => exact ⟨if route.isStrict r.method then 404 else 405, fun _ => rfl⟩
    · split
      · exact ⟨404, fun _ => rfl⟩
      · next route _ => exact ⟨if (route.verb? r.method).isSome then 308 else 405, fun _ => rfl⟩

/-- The tag that a client sends only matters where a body is shown. Any other answer is the same for
every tag that is sent, and has none. -/
theorem shown_or_untagged (s : Service) (code : String) (r : Request) (c : Conditions) (b : Board) :
    (∃ body, ∀ tag, (respond s code { r with ifNoneMatch := tag } c b).1 =
      sent r.method ((Answer.json 200 body).tagged tag)) ∨
    ∃ a : Answer, a.tag = none ∧
      ∀ tag, (respond s code { r with ifNoneMatch := tag } c b).1 = a := by
  cases hrouted : routed? r with
  | none =>
    -- no route is reached
    obtain ⟨status, hpage⟩ := respond_page hrouted s code c b
    exact .inr ⟨.page status, rfl, fun tag => congrArg Prod.fst (hpage tag)⟩
  | some routed =>
    obtain ⟨route, verb⟩ := routed
    have hrespond : ∀ tag, (respond s code { r with ifNoneMatch := tag } c b).1 =
        sent r.method (perform s code r.content tag route verb c b).1 := by
      intro tag
      rw [respond_of_routed ((routed?_with r tag).trans hrouted)]
    -- a route that reads the board, one that performs an operation, or any other one
    by_cases hreads : route.ReadsBoard ∧ verb ≠ .options
    · obtain ⟨a, ⟨body, -, rfl⟩ | hrefuses, hperform⟩ :=
        perform_of_readsBoard hreads.1 hreads.2 s code r.content c b
      · exact .inl ⟨body, fun tag => by rw [hrespond, hperform]⟩
      · refine .inr ⟨sent r.method a, ?_, fun tag => ?_⟩
        · rw [tag_sent, hrefuses.2]
        · rw [hrespond, hperform, tagged_of_status hrefuses.status_ne]
    · cases hasked : asked? s.config r.content route verb with
      | some asked =>
        have hoperation : operation? s.config r = some asked := by
          rw [operation?, hrouted]
          exact hasked
        refine .inr ⟨sent r.method (answered (performAsked code asked) c b).1, ?_, fun tag => ?_⟩
        · rw [tag_sent, tag_answered_performAsked code (readOnly_of_operation? hoperation)]
        · rw [hrespond, perform_of_asked hasked]
      | none =>
        obtain ⟨a, htag, ha⟩ :=
          perform_untagged (verb_of_routed? hrouted).2 hasked hreads s code c b
        refine .inr ⟨sent r.method a, ?_, fun tag => ?_⟩
        · rw [tag_sent, htag]
        · rw [hrespond, ha]

/-- An answer that is neither in full nor unchanged has no tag, whatever tag the client sends. -/
theorem respond_untagged {r : Request} (h200 : (respond s code r c b).1.status ≠ 200)
    (h304 : (respond s code r c b).1.status ≠ 304) :
    (respond s code r c b).1.tag = none ∧
      ∀ ifNoneMatch, (respond s code { r with ifNoneMatch := ifNoneMatch } c b).1 =
        (respond s code r c b).1 := by
  rcases shown_or_untagged s code r c b with ⟨body, hbody⟩ | ⟨a, htag, ha⟩
  · have hself : (respond s code r c b).1 = _ := hbody r.ifNoneMatch
    rw [hself, status_sent] at h200 h304
    by_cases hcurrent : r.ifNoneMatch = some (EntityTag.ofJson body)
    · rw [hcurrent, tagged_json_of_current] at h304
      exact absurd rfl h304
    · rw [tagged_json hcurrent] at h200
      exact absurd rfl h200
  · have hself : (respond s code r c b).1 = a := ha r.ifNoneMatch
    exact ⟨hself ▸ htag, fun ifNoneMatch => (ha ifNoneMatch).trans hself.symm⟩

/-! ## Asking again -/

theorem ofJson_eq_of_canonical_eq {v w : Json} (h : v.canonical = w.canonical) :
    EntityTag.ofJson v = EntityTag.ofJson w := by
  rw [EntityTag.ofJson, EntityTag.ofJson, h]

/-- Conditional reads are never stale. Let a read of the board or of a column be answered in full at
some point of a run, and be asked for again later with the tag of that answer, whatever has happened
in between. If the body that is shown then is the same, the client is told so and gets no body. If it
is another one, and the digests of the two texts differ, the client gets what a client without a tag
gets, under another tag; and it is another one as soon as the ids, the order or the positions of the
listed tasks have changed. Answers that are neither in full nor unchanged have no tag, and are the
same for every tag that is sent; and whatever a view returns under another status than that of success
is answered as it is. -/
theorem never_stale {b : Board} (hb : b.TagsLegible) {before between : List Event}
    (hformed : ∀ e ∈ before ++ between, e.step.WellFormed)
    (hfree : ∀ e ∈ before ++ between, e.TagsFloatFree) {route : Route} (hroute : route.ReadsBoard)
    {r r' : Request} (hr : routed? r = some (route, .get)) (hr' : routed? r' = some (route, .get))
    {s : Service} {code : String} {c c' : Conditions}
    (h200 : (respond s code r c (run b before)).1.status = 200) (s' : Service) (code' : String)
    (hc' : c'.refusal? .query = none) :
    let first := (respond s code r c (run b before)).1
    let later := run (respond s code r c (run b before)).2 between
    let ask (tag : Option String) := (respond s' code' { r' with ifNoneMatch := tag } c' later).1
    (∃ e e', first.tag = some e ∧ (ask none).status = 200 ∧ (ask none).tag = some e' ∧
      (first.body.Same (ask none).body →
        (ask (some e)).status = 304 ∧ (ask (some e)).body = .null ∧ (ask (some e)).tag = some e) ∧
      (¬first.body.Same (ask none).body →
        (Digest.md5Text first.body.canonical = Digest.md5Text (ask none).body.canonical →
          first.body.canonical = (ask none).body.canonical) →
        ask (some e) = ask none ∧ e' ≠ e)) ∧
      (listed (run b before) route ≠ listed later route → ¬first.body.Same (ask none).body) ∧
      (∀ (s : Service) (code : String) (r : Request) (c : Conditions) (b : Board),
        (respond s code r c b).1.status ≠ 200 → (respond s code r c b).1.status ≠ 304 →
        (respond s code r c b).1.tag = none ∧
          ∀ tag, (respond s code { r with ifNoneMatch := tag } c b).1 = (respond s code r c b).1) ∧
      ∀ (returned : Returned) (a : Answer), returned.view.answer? returned.status = some a →
        a.status ≠ 200 → ∀ tag, returned.answer? tag = some a := by
  intro first later ask
  -- a tag was sent with a body that shows the board
  obtain ⟨body, hshows, hrespond⟩ := shows_of_status hr hroute h200
  have hfirst : first = fresh body := congrArg Prod.fst hrespond
  have hlater : later = run (run b before) between :=
    congrArg (fun b => run b between) (congrArg Prod.snd hrespond)
  rw [List.forall_mem_append] at hformed hfree
  have hstart : Board.Lasting b.columns b := ⟨fun _ hc => hc, hb⟩
  -- the bodies can be told apart by their texts, since the tags of all tasks can be read off them
  have htags : (run b before).TagsLegible := (hstart.run hformed.1 hfree.1).tags
  have hlast : Board.Lasting (run b before).columns later :=
    hlater ▸ Board.Lasting.run ⟨fun _ hc => hc, htags⟩ hformed.2 hfree.2
  -- what was shown is still there to be shown
  obtain ⟨body', hshows'⟩ := hshows.again hlast
  have hask : ∀ tag, ask tag =
      if tag = some (EntityTag.ofJson body') then current body' else fresh body' := fun tag =>
    congrArg Prod.fst (hshows'.respond ((routed?_with r' tag).trans hr') hc' s' code')
  have hnone : ask none = fresh body' := (hask none).trans (if_neg (by simp))
  -- the same text, and so the same tag, means the same body
  have hiff : body.canonical = body'.canonical ↔ body.Same body' :=
    hshows.canonical_iff htags hlast hshows'
  rw [hfirst, hnone]
  refine ⟨⟨EntityTag.ofJson body, EntityTag.ofJson body', rfl, rfl, rfl, ?_, ?_⟩, ?_,
    fun s code r c b => respond_untagged, fun returned a => Returned.answer?_of_status⟩
  · intro hsame
    have htag := ofJson_eq_of_canonical_eq (hiff.mpr hsame)
    rw [hask, if_pos (congrArg some htag), htag]
    exact ⟨rfl, rfl, rfl⟩
  · intro hdiffers hdigest
    have hne : EntityTag.ofJson body ≠ EntityTag.ofJson body' := fun heq =>
      hdiffers (hiff.mp (hdigest (EntityTag.md5Text_eq_of_ofJson_eq heq)))
    rw [hask, if_neg (fun heq => hne (Option.some.inj heq))]
    exact ⟨rfl, hne.symm⟩
  · intro hlisted hsame
    exact hlisted (hshows.listed_eq hlast hshows' hsame)

/-- A task is created, and deleted again. -/
def detour : List Event :=
  [.ofCall 4 2 "a" (.create (.int 1) (.text "x") .null .null .null (.list [.text "b"])),
    .ofCall 4 2 "" (.delete (.int 1))]

theorem legible_detour_tags : (Json.list [.text "b"]).Legible :=
  .list fun _ hj => List.mem_singleton.mp hj ▸ .text "b"

theorem wellFormed_detour : ∀ e ∈ detour, e.step.WellFormed := by
  simp [detour, Event.ofCall, Step.WellFormed, Call.tags, legible_detour_tags.wellFormed,
    Json.WellFormed.null]

theorem tagsFloatFree_detour : ∀ e ∈ detour, e.TagsFloatFree := by
  intro e he
  simp only [detour, List.mem_cons, List.not_mem_nil, or_false] at he
  obtain rfl | rfl := he
  · exact Event.tagsFloatFree_of_call rfl legible_detour_tags.floatFree
  · exact Event.tagsFloatFree_of_call rfl .null

/-- The answer to a client that reads while the database works. -/
def answerTo (path : String) (b : Board) (tag : Option String) : Answer :=
  (respond ⟨[], none⟩ "" ⟨"GET", path, .absent, tag⟩ ⟨⟨0⟩, none⟩ b).1

/-- A client without a body is sent the one that is shown. -/
theorem answerTo_of_shows {path : String} {route : Route} {body : Json} {b : Board}
    (hr : routed? ⟨"GET", path, .absent, none⟩ = some (route, .get)) (h : Shows b route body) :
    respond ⟨[], none⟩ "" ⟨"GET", path, .absent, none⟩ ⟨⟨0⟩, none⟩ b = (fresh body, b) :=
  (h.respond hr rfl ⟨[], none⟩ "").trans (by rw [if_neg (by simp)])

theorem run_detour : run bareBoard detour = bareBoard := Board.ext (by cbv) (by cbv)

/-- In the middle of the detour the reads list one task more than before it. -/
theorem listed_ne_amid_detour :
    listed bareBoard .board ≠ listed (run bareBoard (detour.take 1)) .board ∧
      listed bareBoard (.column 1) ≠ listed (run bareBoard (detour.take 1)) (.column 1) := by
  have hbefore : listed bareBoard .board = [(1, [])] := by cbv
  have hafter : listed (run bareBoard (detour.take 1)) .board = [(1, [(1, 0)])] := by cbv
  have hbefore' : listed bareBoard (.column 1) = [(1, [])] := by cbv
  have hafter' : listed (run bareBoard (detour.take 1)) (.column 1) = [(1, [(1, 0)])] := by cbv
  rw [hbefore, hafter, hbefore', hafter']
  decide

/-- The texts of the board before the detour and in the middle of it have different digests. -/
theorem digests_ne_amid_detour : Digest.md5Text bareBoard.record.canonical ≠
    Digest.md5Text (run bareBoard (detour.take 1)).record.canonical := by
  have hcolumns : bareBoard.orderedColumns = [⟨1, "todo", "To do", none, .integer 0⟩] := by cbv
  have hcolumns' : (run bareBoard (detour.take 1)).orderedColumns =
      [⟨1, "todo", "To do", none, .integer 0⟩] := by cbv
  have horder : bareBoard.order 1 = [] := by cbv
  have horder' : (run bareBoard (detour.take 1)).order 1 =
      [⟨1, ⟨"a", "x", "", "medium", none, [.text "b"]⟩, 1, 0, ⟨0⟩, ⟨0⟩⟩] := by cbv
  simp only [Json.canonical, Board.canonicalChars_record, hcolumns, hcolumns', horder, horder',
    List.map_cons, List.map_nil, Json.memberText, Json.canonicalChars, Json.fieldTexts,
    Json.itemTexts, Column.canonicalChars_record, Task.canonicalChars_record,
    List.mergeSort_singleton]
  decide +kernel

/-- In the middle of the detour the column is another one, and at its end it is the same again. A
client that has the board from before gets the new one in the middle, under a new tag. -/
theorem never_stale_after_detour :
    let column := answerTo "/api/kanban/columns/1"
    let board := answerTo "/api/kanban"
    let amid := run bareBoard (detour.take 1)
    ¬(column bareBoard none).body.Same (column amid none).body ∧
      (∃ e, (column bareBoard none).tag = some e ∧
        (column (run bareBoard detour) (some e)).status = 304) ∧
      ∃ e e', (board bareBoard none).tag = some e ∧ (board amid none).tag = some e' ∧ e' ≠ e ∧
        board amid (some e) = board amid none := by
  have htags : bareBoard.TagsLegible := fun t ht => by cases ht
  -- what a client is told that reads before some of the detour, and asks again after it
  have hstale : ∀ between : List Event, (∀ e ∈ between, e ∈ detour) →
      ∀ {path : String} {route : Route} {body : Json},
      routed? ⟨"GET", path, .absent, none⟩ = some (route, .get) → Shows bareBoard route body →
      route.ReadsBoard →
      ∃ e e', (fresh body).tag = some e ∧
        (answerTo path (run bareBoard between) none).tag = some e' ∧
        (body.Same (answerTo path (run bareBoard between) none).body →
          (answerTo path (run bareBoard between) (some e)).status = 304) ∧
        (¬body.Same (answerTo path (run bareBoard between) none).body →
          (Digest.md5Text body.canonical =
              Digest.md5Text (answerTo path (run bareBoard between) none).body.canonical →
            body.canonical = (answerTo path (run bareBoard between) none).body.canonical) →
          answerTo path (run bareBoard between) (some e) =
            answerTo path (run bareBoard between) none ∧ e' ≠ e) ∧
        (listed bareBoard route ≠ listed (run bareBoard between) route →
          ¬body.Same (answerTo path (run bareBoard between) none).body) := by
    intro between hmem path route body hr hshows hroute
    have hnil : run bareBoard [] = bareBoard := rfl
    have hread : respond ⟨[], none⟩ "" ⟨"GET", path, .absent, none⟩ ⟨⟨0⟩, none⟩
        (run bareBoard []) = (fresh body, bareBoard) := by
      rw [hnil]
      exact answerTo_of_shows hr hshows
    have h200 : (respond ⟨[], none⟩ "" ⟨"GET", path, .absent, none⟩ ⟨⟨0⟩, none⟩
        (run bareBoard [])).1.status = 200 := by
      rw [hread]
      rfl
    obtain ⟨⟨e, e', htag, -, htag', hsame, hnew⟩, hlisted, -⟩ := never_stale htags
      (fun e he => wellFormed_detour e (hmem e he) : ∀ e ∈ [] ++ between, e.step.WellFormed)
      (fun e he => tagsFloatFree_detour e (hmem e he)) hroute hr hr h200 ⟨[], none⟩ ""
      (rfl : (⟨⟨0⟩, none⟩ : Conditions).refusal? .query = none)
    have hask : ∀ tag, (respond ⟨[], none⟩ "" ⟨"GET", path, .absent, tag⟩ ⟨⟨0⟩, none⟩
        (run bareBoard between)).1 = answerTo path (run bareBoard between) tag := fun _ => rfl
    simp only [hread, hask] at htag htag' hsame hnew hlisted
    exact ⟨e, e', htag, htag', fun h => (hsame h).1, hnew, hlisted⟩
  have hamid : ∀ e ∈ detour.take 1, e ∈ detour := fun e he => List.mem_of_mem_take he
  have hcolumn : routed? ⟨"GET", "/api/kanban/columns/1", .absent, none⟩ = some (.column 1, .get) := by
    cbv
  have hboard : routed? ⟨"GET", "/api/kanban", .absent, none⟩ = some (.board, .get) :=
    routed?_board "GET" .absent none
  have hshows : Shows bareBoard (.column 1) _ := .column (by decide) rfl
  have hread : (answerTo "/api/kanban/columns/1" bareBoard none).body = _ :=
    congrArg (fun x => x.1.body) (answerTo_of_shows hcolumn hshows)
  refine ⟨?_, ?_, ?_⟩
  · obtain ⟨-, -, -, -, -, -, hlisted⟩ := hstale _ hamid hcolumn hshows trivial
    rw [hread]
    exact hlisted listed_ne_amid_detour.2
  · obtain ⟨e, -, htag, -, hsame, -⟩ := hstale detour (fun _ he => he) hcolumn hshows trivial
    refine ⟨e, (congrArg (fun x => x.1.tag) (answerTo_of_shows hcolumn hshows)).trans htag,
      hsame ?_⟩
    rw [run_detour, hread]
    exact .refl _
  · obtain ⟨e, e', htag, htag', -, hnew, hlisted⟩ := hstale _ hamid hboard .board trivial
    have hread : (answerTo "/api/kanban" (run bareBoard (detour.take 1)) none).body = _ :=
      congrArg (fun x => x.1.body) (answerTo_of_shows hboard .board)
    obtain ⟨hsame, hne⟩ := hnew (hlisted listed_ne_amid_detour.1) fun hdigests => by
      rw [hread] at hdigests
      exact absurd hdigests digests_ne_amid_detour
    exact ⟨e, e', (congrArg (fun x => x.1.tag) (answerTo_of_shows hboard .board)).trans htag, htag',
      hne, hsame⟩

end Http

end Kanban
