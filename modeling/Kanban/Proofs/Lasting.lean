import Kanban.Proofs.History
import Kanban.Proofs.WellFormed

/-!
# What lasts on a board

No step takes a column away or changes one, and the tags of a task stay what they were when it was
created. So a column that is on a board once is there after every run, and the tags of all tasks can
be read off their text when those of the new tasks can (`Board.Lasting.run`). The tags that a request
brings along need only be free of floating-point numbers, because they were read off a text before.
-/

namespace Kanban

open Work

/-! ## Boards -/

namespace Board

/-- The tags of all tasks can be read off their text. -/
def TagsLegible (b : Board) : Prop := ∀ t ∈ b.tasks, ∀ j ∈ t.card.tags, j.Legible

/-- The known columns are on a board, and its tags can be read off their text. -/
structure Lasting (known : List Column) (b : Board) : Prop where
  columns : ∀ c ∈ known, c ∈ b.columns
  tags : b.TagsLegible

namespace Lasting

variable {known : List Column} {b b' : Board}

/-- Nothing new is settled, and the columns are the same. -/
theorem of_settled (hb : Lasting known b) (hcolumns : b'.columns = b.columns)
    (hsettled : ∀ x ∈ b'.settled, x ∈ b.settled) : Lasting known b' := by
  refine ⟨fun c hc => hcolumns ▸ hb.columns c hc, fun t ht => ?_⟩
  obtain ⟨t₀, ht₀, heq⟩ := List.mem_map.mp (hsettled t.settled (List.mem_map_of_mem ht))
  have hcard : t₀.card = t.card := congrArg (fun x => x.2.1) heq
  rw [← hcard]
  exact hb.tags t₀ ht₀

theorem putTask (hb : Lasting known b) (id column position : Int) (now : Timestamp) :
    Lasting known (b.putTask id column position now) :=
  hb.of_settled rfl fun x hx => by simpa using hx

theorem reposition (hb : Lasting known b) (targets : List (Int × Int)) (now : Timestamp) :
    Lasting known (b.reposition targets now) :=
  hb.of_settled rfl fun x hx => by simpa using hx

theorem renumbered (hb : Lasting known b) (column gap : Int) (now : Timestamp) :
    Lasting known (b.renumbered column gap now) :=
  hb.reposition _ now

theorem eased (hb : Lasting known b) (spacing : Spacing) (column : Int) (now : Timestamp) :
    Lasting known (b.eased spacing column now) :=
  hb.of_settled (columns_eased b spacing column now) fun x hx => by simpa using hx

/-- A new task keeps what lasts if its tags can be read off their text. -/
theorem addTask (hb : Lasting known b) {card : Card} (hcard : ∀ j ∈ card.tags, j.Legible)
    (column position : Int) (now : Timestamp) (hcode : card.code ∉ b.tasks.map Task.code) :
    Lasting known (b.addTask card column position now hcode) := by
  refine ⟨hb.columns, fun t ht => ?_⟩
  rcases List.mem_append.mp ht with ht | ht
  · exact hb.tags t ht
  · obtain rfl := List.mem_singleton.mp ht
    exact hcard

theorem removeTask (hb : Lasting known b) (id : Int) : Lasting known (b.removeTask id) := by
  refine hb.of_settled rfl fun x hx => ?_
  rw [settled_removeTask] at hx
  exact List.mem_of_mem_filter hx

/-- New columns take nothing away. -/
theorem widens (hb : Lasting known b) (h : b.Widens b') : Lasting known b' := by
  refine ⟨fun c hc => h.2 c (hb.columns c hc), fun t ht => ?_⟩
  rw [h.1] at ht
  exact hb.tags t ht

end Lasting

end Board

/-! ## The store -/

namespace Store

variable {known : List Column}

/-- A new task has the tags of its draft. -/
theorem tags_of_addTask {draft : Draft} {column position : Int} {c : Conditions} {b b' : Board}
    {t : Task} (h : addTask draft column position c b = (.ok t, b')) : t.card.tags = draft.tags := by
  obtain ⟨-, h₀⟩ := flush_eq_ok.mp h
  obtain ⟨column', -, h₁⟩ := except_bind_eq_ok.mp h₀
  obtain ⟨title, -, h₂⟩ := except_bind_eq_ok.mp h₁
  obtain ⟨description, -, h₃⟩ := except_bind_eq_ok.mp h₂
  obtain ⟨priority, -, h₄⟩ := except_bind_eq_ok.mp h₃
  obtain ⟨assignee, -, h₅⟩ := except_bind_eq_ok.mp h₄
  obtain ⟨position', -, h₆⟩ := except_bind_eq_ok.mp h₅
  split at h₆
  · obtain ⟨-, rfl, -⟩ := insertTask_eq_ok h₆
    rfl
  · cases h₆

theorem lasting_addTask {draft : Draft} (hdraft : ∀ j ∈ draft.tags, j.Legible)
    (column position : Int) : (addTask draft column position).Preserves (Board.Lasting known) := by
  intro c b t b' h hb
  have htags := tags_of_addTask h
  obtain ⟨-, card, hcode, rfl, rfl⟩ := addTask_eq_ok h
  refine hb.addTask (fun j hj => ?_) column position c.now hcode
  exact hdraft j (htags ▸ hj)

theorem lasting_writePosition (id column position : Int) :
    (writePosition id column position).Preserves (Board.Lasting known) := by
  intro c b t b' h hb
  obtain rfl := writePosition_eq_ok h
  exact hb.putTask id column position c.now

theorem lasting_writePositions (column : Int) (targets : List (Int × Int)) :
    (writePositions column targets).Preserves (Board.Lasting known) := by
  intro c b ids b' h hb
  obtain ⟨-, rfl⟩ := writePositions_eq_ok h
  exact hb.reposition targets c.now

theorem lasting_rebalance (column gap : Int) :
    (rebalance column gap).Preserves (Board.Lasting known) := by
  intro c b n b' h hb
  obtain rfl := rebalance_eq_ok h
  exact hb.renumbered column gap c.now

theorem lasting_removeTask (id : Int) : (removeTask id).Preserves (Board.Lasting known) := by
  intro c b x b' h hb
  obtain rfl := removeTask_eq_ok h
  exact hb.removeTask id

/-- Whatever is asked of the store, a task that is added has no tags. -/
theorem lasting_perform (code : String) (a : Action) :
    (a.perform code).Preserves (Board.Lasting known) := by
  have hpure : ∀ reply : Reply, (pure reply : Work Reply).Preserves (Board.Lasting known) :=
    fun reply => (ReadOnly.pure reply).preserves
  -- most actions only look
  have hlook : ∀ {α : Type} {w : Work α} {form : α → Reply}, w.ReadOnly →
      (w >>= fun a => pure (form a)).Preserves (Board.Lasting known) :=
    fun hw => hw.preserves.bind fun _ => hpure _
  cases a with
  | addTask column position title =>
    exact (lasting_addTask (by simp [bareDraft]) column position).bind fun _ => hpure _
  | rebalance column gap => exact (lasting_rebalance column gap).bind fun _ => hpure _
  | writePosition id position destination =>
    refine (readOnly_task id).preserves.bind fun t => ?_
    exact (lasting_writePosition _ _ _).bind fun _ => hpure _
  | writePositions column targets =>
    exact (lasting_writePositions column _).bind fun _ => hpure _
  | removeTask id =>
    refine (readOnly_task id).preserves.bind fun t => ?_
    exact (lasting_removeTask _).bind fun _ => hpure _
  | order column without =>
    cases without with
    | none => exact hlook (ReadOnly.query _)
    | some id => exact hlook (ReadOnly.query _)
  | largestPosition column => exact hlook (ReadOnly.query _)
  | task id => exact hlook (readOnly_task id)
  | column id => exact hlook (ReadOnly.read _)
  | lockColumn id => exact hlook (readOnly_lockColumn id)
  | columnNamed name => exact hlook (readOnly_columnNamed name)
  | columns => exact hlook (ReadOnly.query _)
  | columnTasks column => exact hlook (ReadOnly.read _)
  | labels column task =>
    exact (ReadOnly.read _).preserves.bind fun _ => hlook (readOnly_task task)

/-- A list of actions keeps what lasts: the tasks that it adds have no tags. -/
theorem lasting_performAll (codes : Nat → String) (used : Nat) (actions : List Action) :
    (performAll codes used actions).Preserves (Board.Lasting known) := by
  -- on the actions, for every number of codes that have been used
  induction actions generalizing used with
  | nil => exact (ReadOnly.pure _).preserves
  | cons action rest ih =>
    refine (lasting_perform _ action).bind fun reply => ?_
    exact (ih _).bind fun replies => (ReadOnly.pure _).preserves

end Store

/-- A unit of work on the store keeps what lasts, whatever failure it ends with. -/
theorem lasting_unitBody {known : List Column} (codes : Nat → String)
    (actions : List Store.Action) (ending : Option Failure) :
    (unitBody codes actions ending).Preserves (Board.Lasting known) := by
  refine (Store.lasting_performAll codes 0 actions).bind fun replies => ?_
  cases ending with
  | none => exact (ReadOnly.pure _).preserves
  | some e => exact (ReadOnly.fail e).preserves

/-! ## The four operations -/

namespace Operation

/-- A new task has the tags that were asked for. -/
theorem tags_of_creation {spacing : Spacing} {code : String} {r : NewTask} {c : Conditions}
    {b b' : Board} {t : Task} (h : creation spacing code r c b = (.ok t, b')) :
    r.tagList = .ok t.card.tags := by
  obtain ⟨column, b₁, -, h₁⟩ := bind_eq_ok.mp h
  obtain ⟨ordered, b₂, -, h₂⟩ := bind_eq_ok.mp h₁
  obtain ⟨description, b₃, -, h₃⟩ := bind_eq_ok.mp h₂
  obtain ⟨tags, b₄, htags, h₄⟩ := bind_eq_ok.mp h₃
  obtain ⟨htags, -⟩ := ofExcept_eq_ok.mp htags
  rw [Store.tags_of_addTask h₄]
  exact htags

/-- The tags that a request gives to a new task can be read off their text. -/
def Request.TagsLegible (q : Request) : Prop :=
  ∀ r, q = .create r → ∀ tags, r.tagList = .ok tags → ∀ j ∈ tags, j.Legible

/-- An operation keeps what lasts if the tags that it writes can be read off their text. -/
theorem Request.lasting_work {known : List Column} {q : Request} (hq : q.TagsLegible)
    (spacing : Spacing) (code : String) :
    (q.work spacing code).Preserves (Board.Lasting known) := by
  intro c b o b' h hb
  cases q with
  | create r =>
    obtain ⟨t, hwork, rfl⟩ := map_eq_ok.mp h
    have htags := tags_of_creation hwork
    obtain ⟨-, card, hcode, rfl, rfl⟩ := creation_eq_ok hwork
    exact hb.addTask (hq r rfl _ htags) _ _ c.now hcode
  | move r =>
    obtain ⟨m, hwork, rfl⟩ := map_eq_ok.mp h
    obtain ⟨t, p, cleared, b₁, -, -, hlands, rfl, -⟩ := relocation_eq_ok hwork
    -- the task lands on the board as it was, or on the one with its column renumbered
    have hb₁ : Board.Lasting known b₁ := by
      rcases hlands.board_eq with rfl | rfl
      · exact hb
      · exact hb.renumbered _ _ c.now
    exact (hb₁.putTask _ _ _ c.now).eased spacing _ c.now
  | batch r =>
    obtain ⟨placed, hwork, rfl⟩ := map_eq_ok.mp h
    obtain ⟨-, -, rfl, -⟩ := placement_eq_ok hwork
    exact (hb.reposition _ c.now).eased spacing _ c.now
  | delete task =>
    obtain ⟨x, hwork, rfl⟩ := map_eq_ok.mp h
    obtain ⟨-, rfl⟩ := deletion_eq_ok hwork
    exact hb.removeTask task

/-- Each tag of a new task is an item of the given list, a text, or one code point of the given
string. -/
theorem NewTask.tag_cases {r : NewTask} {tags : List Json} (h : r.tagList = .ok tags) {j : Json}
    (hj : j ∈ tags) :
    (∃ items, r.tags = .list items ∧ j ∈ items) ∨ (∃ s, j = .text s) ∨
      ∃ points p, r.tags = .illFormed points ∧ p ∈ points ∧ j = .ofPoints [p] := by
  -- a list, a text, a string that is none, the names of an object, or nothing
  unfold tagList at h
  split at h
  · next items heq =>
    cases h
    exact .inl ⟨_, heq, hj⟩
  · cases h
    obtain ⟨c, -, rfl⟩ := List.mem_map.mp hj
    exact .inr (.inl ⟨_, rfl⟩)
  · next points heq =>
    cases h
    obtain ⟨p, hp, rfl⟩ := List.mem_map.mp hj
    exact .inr (.inr ⟨points, p, heq, hp, rfl⟩)
  · cases h
    obtain ⟨f, -, rfl⟩ := List.mem_map.mp hj
    exact .inr (.inl ⟨_, rfl⟩)
  · split at h
    · cases h
    · cases h
      cases hj

/-- The tags of a new task are well-formed if the value was that lists them. -/
theorem NewTask.wellFormed_of_tagList {r : NewTask} (hr : r.tags.WellFormed) {tags : List Json}
    (h : r.tagList = .ok tags) : ∀ j ∈ tags, j.WellFormed := by
  intro j hj
  rcases tag_cases h hj with ⟨items, heq, hitem⟩ | ⟨s, rfl⟩ | ⟨points, p, heq, hp, rfl⟩
  · rw [heq] at hr
    exact hr.items j hitem
  · exact .text s
  · rw [heq] at hr
    cases hr with
    | illFormed hpoints halved =>
      exact Json.wellFormed_ofPoints (.cons (hpoints.bounded p hp) (by simp) ⟨by simp, .nil⟩)

theorem NewTask.floatFree_of_tagList {r : NewTask} (hr : r.tags.FloatFree) {tags : List Json}
    (h : r.tagList = .ok tags) : ∀ j ∈ tags, j.FloatFree := by
  intro j hj
  rcases tag_cases h hj with ⟨items, heq, hitem⟩ | ⟨s, rfl⟩ | ⟨points, p, -, -, rfl⟩
  · rw [heq] at hr
    cases hr with
    | list hitems => exact hitems j hitem
  · exact .text s
  · exact Json.floatFree_ofPoints [p]

end Operation

/-! ## What steps bring along -/

/-- The tags among the arguments of a call. -/
def Call.tags : Call → Json
  | .create _ _ _ _ _ tags => tags
  | .move .. | .batch .. | .delete _ => .null

/-- The values that a step brings along can be written as text. -/
def Step.WellFormed : Step → Prop
  | .call _ _ operation => operation.tags.WellFormed
  | .request r => r.content.WellFormed
  | .unit .. | .action _ | .seed _ => True

/-- The tags that an event gives to a new task, whatever the board, have no floating-point
numbers. -/
def Event.TagsFloatFree (e : Event) : Prop :=
  ∀ b spacing r tags, e.request? b = some (spacing, .create r) → r.tagList = .ok tags →
    ∀ j ∈ tags, j.FloatFree

/-- The tags are not looked at while arguments are checked. -/
theorem Operation.NewTask.tags_of_ofArguments
    {column title description priority assignee tags : Json} {r : NewTask}
    (h : ofArguments column title description priority assignee tags = .ok r) : r.tags = tags := by
  obtain ⟨column', -, h₁⟩ := except_bind_eq_ok.mp h
  obtain ⟨title', -, h₂⟩ := except_bind_eq_ok.mp h₁
  cases h₂
  rfl

namespace Http

/-- The tags of a new task stand in the content of the request. -/
theorem tags_of_asked {config : Config} {r : Request} {asked : Work (Spacing × Operation.Request)}
    (h : operation? config r = some asked) {c : Conditions} {b b' : Board} {spacing : Spacing}
    {q : Operation.NewTask} (hasked : asked c b = (.ok (spacing, .create q), b')) :
    ∃ fields, r.content.fields = .ok fields ∧ q.tags = fields.get "tags" := by
  obtain ⟨⟨route, verb⟩, -, hroute⟩ := Option.bind_eq_some_iff.mp h
  change asked? config r.content route verb = some asked at hroute
  unfold asked? at hroute
  split at hroute
  · cases hroute
  · cases hroute
    obtain ⟨fields, b₁, hfields, h₁⟩ := bind_eq_ok.mp hasked
    split at h₁
    · obtain ⟨column, b₂, -, h₂⟩ := bind_eq_ok.mp h₁
      obtain ⟨spacing', b₃, -, h₃⟩ := bind_eq_ok.mp h₂
      -- the tags come from the field of that name, as they are
      obtain ⟨arguments, b₄, harguments, h₄⟩ := bind_eq_ok.mp h₃
      cases h₄
      exact ⟨fields, (ofExcept_eq_ok.mp hfields).1,
        Operation.NewTask.tags_of_ofArguments (checked_eq_ok harguments)⟩
    · cases h₁
  · cases hroute
    obtain ⟨fields, b₁, -, h₁⟩ := bind_eq_ok.mp hasked
    obtain ⟨column, b₂, -, h₂⟩ := bind_eq_ok.mp h₁
    obtain ⟨spacing', b₃, -, h₃⟩ := bind_eq_ok.mp h₂
    obtain ⟨arguments, b₄, -, h₄⟩ := bind_eq_ok.mp h₃
    cases h₄
  · cases hroute
    obtain ⟨spacing', b₁, -, h₁⟩ := bind_eq_ok.mp hasked
    cases h₁
  · cases hroute
    obtain ⟨fields, b₁, -, h₁⟩ := bind_eq_ok.mp hasked
    obtain ⟨spacing', b₂, -, h₂⟩ := bind_eq_ok.mp h₁
    obtain ⟨arguments, b₃, -, h₃⟩ := bind_eq_ok.mp h₂
    cases h₃
  · cases hroute

end Http

theorem Json.WellFormed.get {fields : Fields} (h : (Json.object fields).WellFormed)
    (name : String) : (fields.get name).WellFormed := by
  unfold Fields.get Fields.get?
  cases hfound : fields.lookup name with
  | none => exact .null
  | some j =>
    obtain ⟨l₁, l₂, rfl, -⟩ := List.lookup_eq_some_iff.mp hfound
    exact h.values (name, j) (by simp)

/-- A call that asks for a new task gives it the tags among its arguments. -/
theorem Event.tags_of_call {gap threshold : Option Int} {call : Call} {e : Event}
    (hstep : e.step = .call gap threshold call) {b : Board} {spacing : Spacing}
    {r : Operation.NewTask} (h : e.request? b = some (spacing, .create r)) : r.tags = call.tags := by
  unfold request? at h
  rw [hstep] at h
  dsimp only at h
  split at h
  · next hspacing hrequest =>
    cases h
    cases call with
    | create column title description priority assignee tags =>
      obtain ⟨r', hr', heq⟩ := except_map_eq_ok.mp hrequest
      cases heq
      exact Operation.NewTask.tags_of_ofArguments hr'
    | move | batch | delete =>
      obtain ⟨r', -, heq⟩ := except_map_eq_ok.mp hrequest
      cases heq
  · cases h

theorem Event.tagsFloatFree_of_call {gap threshold : Option Int} {call : Call} {e : Event}
    (hstep : e.step = .call gap threshold call) (h : call.tags.FloatFree) : e.TagsFloatFree := by
  intro b spacing r tags hrequest htags
  exact Operation.NewTask.floatFree_of_tagList (tags_of_call hstep hrequest ▸ h) htags

/-- What a new task gets as its tags can be read off its text. -/
theorem Event.tagsLegible {e : Event} (hformed : e.step.WellFormed) (hfree : e.TagsFloatFree)
    {b : Board} {spacing : Spacing} {q : Operation.Request}
    (h : e.request? b = some (spacing, q)) : q.TagsLegible := by
  rintro r rfl tags htags j hj
  refine ⟨?_, hfree b spacing r tags h htags j hj⟩
  -- what is sent along is well-formed, and so is each field of it
  suffices hr : r.tags.WellFormed from Operation.NewTask.wellFormed_of_tagList hr htags j hj
  cases hstep : e.step with
  | call gap threshold call =>
    rw [hstep] at hformed
    rw [tags_of_call hstep h]
    exact hformed
  | request request =>
    rw [hstep] at hformed
    simp only [request?, hstep] at h
    obtain ⟨asked, hoperation, hasked⟩ := Option.bind_eq_some_iff.mp h
    obtain ⟨fields, hfields, heq⟩ := Http.tags_of_asked hoperation
      (Prod.ext (except_toOption_eq_some.mp hasked) rfl)
    rw [heq]
    exact (Http.Content.wellFormed_of_fields hformed hfields).get "tags"
  | unit | action | seed => simp [request?, hstep] at h

/-! ## Runs -/

/-- What a step did when it succeeded, it did to the board; else it left the board alone. -/
theorem Work.board_of_reaction {α : Type} {P : Board → Prop} {w : Work α} {form : α → Reaction}
    {c : Conditions} {b : Board} (hb : P b) (hw : w.Preserves P)
    (hfailed : ∀ f b', w c b = (.error f, b') → b' = b) : P (w.reaction form c b).2 := by
  unfold reaction
  split
  · next a b' h => exact hw c b a b' h hb
  · next f b' h =>
    obtain rfl := hfailed f b' h
    exact hb

namespace Board.Lasting

variable {known : List Column} {b : Board}

/-- A step of any kind keeps what lasts. -/
theorem perform (hb : Lasting known b) {e : Event} (hformed : e.step.WellFormed)
    (hfree : e.TagsFloatFree) : Lasting known (e.perform b).2 := by
  by_cases hoperation : e.step.IsOperation
  · refine Event.board_of_perform (P := Lasting known) hoperation hb
      fun spacing q o b' hrequest hwork => ?_
    have hlegible := Event.tagsLegible hformed hfree hrequest
    exact Operation.Request.lasting_work hlegible spacing (e.codes 0) _ _ _ _ hwork hb
  · obtain ⟨step, service, codes, conditions⟩ := e
    cases step with
    | call | request => exact absurd trivial hoperation
    | unit actions ending =>
      refine Work.board_of_reaction hb (fun c b a b' h hb => ?_) fun f b' => transaction_of_error
      exact lasting_unitBody codes actions ending c b a b' (transaction_eq_ok.mp h).1 hb
    | action a =>
      -- an action is not committed, whatever it did
      have hboard : ((a.perform (codes 0)).discarded.reaction .reply conditions b).2 = b := by
        unfold Work.reaction
        split <;> next h => exact (congrArg Prod.snd h).symm
      show Lasting known ((a.perform (codes 0)).discarded.reaction .reply conditions b).2
      rw [hboard]
      exact hb
    | seed descriptions =>
      refine Work.board_of_reaction hb (fun c b a b' h hb => ?_) fun f b' => committed_of_error
      have hwidens := Seed.widens_seed descriptions c b
      rw [h] at hwidens
      exact hb.widens hwidens

/-- Whatever happens, the columns stay, and the tags can be read off their text. -/
theorem run {events : List Event} (hb : Lasting known b)
    (hformed : ∀ e ∈ events, e.step.WellFormed) (hfree : ∀ e ∈ events, e.TagsFloatFree) :
    Lasting known (run b events) := by
  -- on the events, for every board: the rest of the run begins where the first step ends
  induction events generalizing b with
  | nil => exact hb
  | cons e rest ih =>
    rw [List.forall_mem_cons] at hformed hfree
    exact ih (hb.perform hformed.1 hfree.1) hformed.2 hfree.2

end Board.Lasting

end Kanban
