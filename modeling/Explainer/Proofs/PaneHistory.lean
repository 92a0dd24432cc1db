import Explainer.Proofs.RegistryHistory
import Explainer.Session
import Mathlib.Data.List.Induction

/-!
# A pane against its history

A pane shows the message that was rendered last, and it shows it from then on
until it is hidden. This file proves so for whole sessions, in which messages
are rendered, shown and hidden while templates keep coming in. The message is
the one that was rendered then: the templates that come later do not change
it, and an attempt that fails leaves no trace.

What one operation does to the pane has three cases, and `pane_perform` lists
them: it fills the pane, or hides it, or leaves it alone. Both halves of the
pane are read off them, each by adding one operation at the end of a history.
-/

namespace Explainer

/-- What can be done in a session: an action of its own, or an update of its
registry from elsewhere, with whatever was heard of the fetches of a load. -/
inductive Operation where
  | act (action : Action)
  | update (u : Update)

namespace Operation

/-- The operation brings templates, or sets what they are loaded from. -/
def BringsTemplates : Operation → Prop
  | update _ | act (.insert _) | act (.extend _) | act (.provide ..) | act (.load ..)
  | act (.loadGroups ..) => True
  | _ => False

/-- The operation sets the pane by hand, without a message of its own. -/
def SetsPane : Operation → Prop
  | act .reveal | act (.mount _) => True
  | _ => False

end Operation

namespace Session

def perform (s : Session) : Operation → Session
  | .act action => (s.step action).session
  | .update u => { s with registry := u.apply s.registry }

def after (s : Session) (ops : List Operation) : Session :=
  ops.foldl perform s

/-- The operation asks to fill the pane, and succeeds with the markup. -/
def Fills (s : Session) (op : Operation) (markup : Text) : Prop :=
  ∃ record list, op = .act (.fill record list) ∧
    (s.step (.fill record list)).reply = .filled (.ok markup)

/-- The operation with this number is one that fills the pane with the markup,
in the session as it is then. -/
def FillsAt (s : Session) (ops : List Operation) (k : Nat) (markup : Text) : Prop :=
  ∃ op, ops[k]? = some op ∧ (s.after (ops.take k)).Fills op markup

/-- The markup of the last operation that fills the pane; none if none does. -/
def LastFilled (s : Session) (ops : List Operation) (markup : Text) : Prop :=
  (∃ k, s.FillsAt ops k markup ∧ ∀ j > k, ∀ later, ¬ s.FillsAt ops j later) ∨
  ((∀ k earlier, ¬ s.FillsAt ops k earlier) ∧ markup = [])

variable {s : Session} {ops : List Operation} {op : Operation}

theorem after_concat (s : Session) (ops : List Operation) (op : Operation) :
    s.after (ops ++ [op]) = (s.after ops).perform op := by
  rw [after, List.foldl_append]
  rfl

/-! ## What one operation does -/

theorem reply_fill_iff {record : ErrorRecord} {list : Option (List MessageTemplate)}
    {result : Except ExplainError Text} :
    (s.step (.fill record list)).reply = .filled result ↔
      (s.step (.explain record list)).reply = .explained result := by
  rw [step, step, Reply.filled.injEq, Reply.explained.injEq]

theorem step_fill_of_error {record : ErrorRecord} {list : Option (List MessageTemplate)}
    {e : ExplainError} (h : (s.step (.fill record list)).reply = .filled (.error e)) :
    (s.step (.fill record list)).session = s := by
  have hresult := Reply.filled.inj h
  rw [step, Renderer.fill, Explanation.fill, hresult]

theorem pane_step_fill_of_ok {record : ErrorRecord} {list : Option (List MessageTemplate)}
    {markup : Text} (h : (s.step (.fill record list)).reply = .filled (.ok markup)) :
    (s.step (.fill record list)).session.pane = ⟨markup, true⟩ := by
  have hresult := Reply.filled.inj h
  rw [step, Renderer.fill, Explanation.fill, hresult]
  rfl

theorem pane_load (s : Session) (plan : LoadPlan) (base : Text) (names : List Text) :
    (s.load plan base names).1.pane = s.pane := by
  rw [load]
  cases (s.loader plan).load? s.registry base names <;> rfl

theorem pane_loadGroups (s : Session) (plan : LoadPlan) (base : Text)
    (groups : List (List Text)) : (s.loadGroups plan base groups).1.pane = s.pane := by
  induction groups generalizing s with
  | nil => rfl
  | cons names rest ih =>
      rw [loadGroups]
      exact (ih _).trans (s.pane_load plan base names)

theorem pane_perform_of_bringsTemplates (h : op.BringsTemplates) :
    (s.perform op).pane = s.pane := by
  cases op with
  | update u => rfl
  | act action =>
      cases action with
      | insert | extend | provide => rfl
      | load plan base names => exact s.pane_load plan base names
      | loadGroups plan base groups => exact s.pane_loadGroups plan base groups
      | lookup | explain | fill | hide | reveal | mount => cases h

theorem registry_perform_of_not_bringsTemplates (h : ¬ op.BringsTemplates) :
    (s.perform op).registry = s.registry := by
  cases op with
  | update u => exact absurd trivial h
  | act action =>
      cases action with
      | insert | extend | provide | load | loadGroups => exact absurd trivial h
      | lookup | explain | fill | hide | reveal | mount => rfl

/-- A request to fill the pane does so, or leaves everything as it was. -/
theorem perform_fill (s : Session) (record : ErrorRecord)
    (list : Option (List MessageTemplate)) :
    (∃ markup, s.Fills (.act (.fill record list)) markup ∧
      (s.perform (.act (.fill record list))).pane = ⟨markup, true⟩) ∨
    ((∀ markup, ¬ s.Fills (.act (.fill record list)) markup) ∧
      s.perform (.act (.fill record list)) = s) := by
  cases hresult : (s.renderer.explain (s.templates list) record).result with
  | ok markup =>
      have hreply : (s.step (.fill record list)).reply = .filled (.ok markup) :=
        congrArg Reply.filled hresult
      exact .inl ⟨markup, ⟨record, list, rfl, hreply⟩, pane_step_fill_of_ok hreply⟩
  | error e =>
      have hreply : (s.step (.fill record list)).reply = .filled (.error e) :=
        congrArg Reply.filled hresult
      refine .inr ⟨?_, step_fill_of_error hreply⟩
      rintro markup ⟨_, _, hop, hok⟩
      cases hop
      rw [hreply] at hok
      cases hok

/-- An operation fills the pane, or hides it, or leaves it alone. -/
theorem pane_perform (s : Session) (h : ¬ op.SetsPane) :
    (∃ markup, s.Fills op markup ∧ (s.perform op).pane = ⟨markup, true⟩) ∨
    ((∀ markup, ¬ s.Fills op markup) ∧
      (op = .act .hide ∧ (s.perform op).pane = s.pane.hide ∨
        op ≠ .act .hide ∧ (s.perform op).pane = s.pane)) := by
  by_cases hbrings : op.BringsTemplates
  · refine .inr ⟨?_, .inr ⟨?_, pane_perform_of_bringsTemplates hbrings⟩⟩
    · rintro markup ⟨record, list, rfl, _⟩
      exact hbrings
    · rintro rfl
      exact hbrings
  · cases op with
    | update u => exact absurd trivial hbrings
    | act action =>
        cases action with
        | insert | extend | provide | load | loadGroups => exact absurd trivial hbrings
        | reveal | mount => exact absurd trivial h
        | lookup | explain => exact .inr ⟨nofun, .inr ⟨nofun, rfl⟩⟩
        | hide => exact .inr ⟨nofun, .inl ⟨rfl, rfl⟩⟩
        | fill record list =>
            rcases s.perform_fill record list with ⟨markup, hfills, hpane⟩ | ⟨hnot, hsame⟩
            · exact .inl ⟨markup, hfills, hpane⟩
            · exact .inr ⟨hnot, .inr ⟨nofun, congrArg pane hsame⟩⟩

/-! ## What a history does -/

theorem getElem?_concat_eq_some {α : Type} {l : List α} {a b : α} {k : Nat} :
    (l ++ [a])[k]? = some b ↔ l[k]? = some b ∨ k = l.length ∧ a = b := by
  rcases Nat.lt_trichotomy k l.length with hlt | rfl | hgt
  · rw [List.getElem?_append_left hlt, or_iff_left fun h => hlt.ne h.1]
  · simp
  · rw [List.getElem?_append_right hgt.le, List.getElem?_eq_none hgt.le,
      List.getElem?_eq_none (Nat.sub_pos_of_lt hgt)]
    exact iff_of_false nofun fun h => hgt.ne' (h.resolve_left nofun).1

theorem FillsAt.lt_length {k : Nat} {markup : Text} (h : s.FillsAt ops k markup) :
    k < ops.length := by
  obtain ⟨op, hop, _⟩ := h
  exact (List.getElem?_eq_some_iff.mp hop).1

theorem fillsAt_concat {k : Nat} {markup : Text} :
    s.FillsAt (ops ++ [op]) k markup ↔
      s.FillsAt ops k markup ∨ k = ops.length ∧ (s.after ops).Fills op markup := by
  constructor
  · rintro ⟨op', hop, hfills⟩
    rcases getElem?_concat_eq_some.mp hop with hold | ⟨rfl, rfl⟩
    · have hk := (List.getElem?_eq_some_iff.mp hold).1
      rw [List.take_append_of_le_length hk.le] at hfills
      exact .inl ⟨op', hold, hfills⟩
    · rw [List.take_left] at hfills
      exact .inr ⟨rfl, hfills⟩
  · rintro (⟨op', hold, hfills⟩ | ⟨rfl, hfills⟩)
    · have hk := (List.getElem?_eq_some_iff.mp hold).1
      refine ⟨op', getElem?_concat_eq_some.mpr (.inl hold), ?_⟩
      rwa [List.take_append_of_le_length hk.le]
    · refine ⟨op, getElem?_concat_eq_some.mpr (.inr ⟨rfl, rfl⟩), ?_⟩
      rwa [List.take_left]

theorem fillsAt_concat_of_not_fills (h : ∀ markup, ¬ (s.after ops).Fills op markup) {k : Nat}
    {markup : Text} : s.FillsAt (ops ++ [op]) k markup ↔ s.FillsAt ops k markup := by
  rw [fillsAt_concat, or_iff_left]
  exact fun ⟨_, hfills⟩ => h markup hfills

/-- The markup of the pane is that of the last operation that filled it. -/
theorem lastFilled_after (hpane : s.pane = .empty) (hops : ∀ op ∈ ops, ¬ op.SetsPane) :
    s.LastFilled ops (s.after ops).pane.markup := by
  induction ops using List.reverseRecOn with
  | nil => exact .inr ⟨nofun, congrArg Pane.markup hpane⟩
  | append_singleton ops op ih =>
      obtain ⟨hrest, hop⟩ := List.forall_mem_append.mp hops
      have hold := ih hrest
      rw [after_concat]
      rcases pane_perform (s.after ops) (hop op (List.mem_singleton_self op)) with
        ⟨markup, hfills, hnew⟩ | ⟨hnot, hcase⟩
      · rw [hnew]
        refine .inl ⟨ops.length, fillsAt_concat.mpr (.inr ⟨rfl, hfills⟩), ?_⟩
        -- nothing comes after the operation that was added last
        intro j hj later hlater
        have := hlater.lt_length
        rw [List.length_append, List.length_singleton] at this
        omega
      · have hmarkup : ((s.after ops).perform op).pane.markup = (s.after ops).pane.markup := by
          rcases hcase with ⟨_, hnew⟩ | ⟨_, hnew⟩
          · rw [hnew, Pane.markup_hide]
          · rw [hnew]
        simp only [hmarkup, LastFilled, fillsAt_concat_of_not_fills hnot]
        exact hold

/-- The pane is visible exactly when it was filled and not hidden since. -/
theorem visible_after (hpane : s.pane = .empty) (hops : ∀ op ∈ ops, ¬ op.SetsPane) :
    (s.after ops).pane.visible = true ↔
      ∃ k markup, s.FillsAt ops k markup ∧ ∀ j > k, ops[j]? ≠ some (.act .hide) := by
  induction ops using List.reverseRecOn with
  | nil =>
      rw [show (s.after []).pane = .empty from hpane]
      exact iff_of_false Bool.false_ne_true nofun
  | append_singleton ops op ih =>
      obtain ⟨hrest, hop⟩ := List.forall_mem_append.mp hops
      have hold := ih hrest
      rw [after_concat]
      rcases pane_perform (s.after ops) (hop op (List.mem_singleton_self op)) with
        ⟨markup, hfills, hnew⟩ | ⟨hnot, ⟨rfl, hnew⟩ | ⟨hne, hnew⟩⟩
      · rw [hnew]
        refine iff_of_true rfl ⟨ops.length, markup, fillsAt_concat.mpr (.inr ⟨rfl, hfills⟩), ?_⟩
        intro j hj
        rw [List.getElem?_eq_none (by rw [List.length_append]; exact hj)]
        exact nofun
      · rw [hnew]
        refine iff_of_false Bool.false_ne_true ?_
        rintro ⟨k, markup, hfill, hhide⟩
        have hk := ((fillsAt_concat_of_not_fills hnot).mp hfill).lt_length
        exact hhide ops.length hk (getElem?_concat_eq_some.mpr (.inr ⟨rfl, rfl⟩))
      · rw [hnew, hold]
        simp only [fillsAt_concat_of_not_fills hnot, ne_eq, getElem?_concat_eq_some, hne,
          and_false, or_false]

/-- What holds of the pane and the registry after whatever was done in a
session that starts with an empty pane. -/
theorem after_pane_registry (registry : Registry) (renderer : Renderer) (ops : List Operation)
    (hops : ∀ op ∈ ops, ¬ op.SetsPane) :
    let s := start registry renderer
    let t := s.after ops
    s.LastFilled ops t.pane.markup ∧
    (t.pane.visible = true ↔
      ∃ k markup, s.FillsAt ops k markup ∧ ∀ j > k, ops[j]? ≠ some (.act .hide)) ∧
    (∀ record list e, (t.step (.fill record list)).reply = .filled (.error e) →
      (t.step (.fill record list)).session = t) ∧
    (∀ record list result, (t.step (.fill record list)).reply = .filled result ↔
      (t.step (.explain record list)).reply = .explained result) ∧
    (∀ op : Operation, op.BringsTemplates → (t.perform op).pane = t.pane) ∧
    (∀ op : Operation, ¬ op.BringsTemplates → (t.perform op).registry = t.registry) :=
  ⟨lastFilled_after rfl hops, visible_after rfl hops, fun _ _ _ => step_fill_of_error,
    fun _ _ _ => reply_fill_iff, fun _ => pane_perform_of_bringsTemplates,
    fun _ => registry_perform_of_not_bringsTemplates⟩

/-- A message is shown, its template is replaced, another attempt fails, and
the pane is hidden. -/
def shownThenHidden : List Operation :=
  [.act (.insert ⟨"T".toList, "a".toList, none⟩), .act (.fill (.ofKind "T".toList) none),
    .update (.extend [⟨"T".toList, "b".toList, none⟩]), .act (.fill (.ofKind "U".toList) none),
    .act .hide]

theorem after_pane_registry_hidden :
    let s := start (.empty .lastWins) .standard
    let t := s.after shownThenHidden
    let record : ErrorRecord := .ofKind "U".toList
    s.LastFilled shownThenHidden "a".toList ∧ t.pane.visible = false ∧
      (t.step (.explain record none)).reply =
        .explained (.error (.templateNotFound "U".toList)) ∧
      (t.step (.fill record none)).session = t := by
  intro s t record
  have hops : ∀ op ∈ shownThenHidden, ¬ op.SetsPane := by
    simp [shownThenHidden, Operation.SetsPane]
  have hpane : t.pane = ⟨"a".toList, false⟩ := by decide +kernel
  have hreply : (t.step (.explain record none)).reply =
      .explained (.error (.templateNotFound "U".toList)) := rfl
  obtain ⟨hlast, -, hfail, hsame, -⟩ := after_pane_registry (.empty .lastWins) .standard
    shownThenHidden hops
  rw [hpane] at hlast
  exact ⟨hlast, congrArg Pane.visible hpane, hreply, hfail _ _ _ ((hsame _ _ _).mpr hreply)⟩

end Session

end Explainer
