import ConnLease.Proofs.Session.Journals
import ConnLease.Proofs.Session.Living
import ConnLease.Proofs.Session.Quiescence
import ConnLease.Proofs.Session.Strays

/-!
# The lists of open statements are exact

Two things say whether a statement is open: its own flag, and the list of the connection through
which it was opened. They agree, on every connection that lives, as long as callers leave tracking
to the calls that open and close statements and no close panics. There is one exception, by design:
when a call that opens a statement finds its connection closed by the time it registers the
statement, the registration is declined, and the statement stays untracked for good.

Main statement: `exact_tracking`.
-/

namespace ConnLease.Session

/-! ## The list of a connection -/

/-- The registry of an open connection after a move that is addressed to it. -/
def relisted (w : Session) (m : Move) (r : Registry Unit) : Registry Unit :=
  match m with
  | .close _ => .empty
  | .register _ s => r.register s ()
  | .unregister _ s | .untrack _ s => (r.unregister s).1
  | .adopt _ _ _ => r.register w.statements.next ()
  | _ => r

theorem changed_tracked_of_open [Scheduler] (w : Session) (m : Move) {conn : Connection}
    (h : conn.closed = false) : (w.changed m conn).tracked = w.relisted m conn.tracked := by
  have hopen : ¬ conn.closed = true := by simp [h]
  cases m with
  | arm c threshold timer =>
    simp only [changed]
    split
    · rw [if_neg hopen]
      rfl
    · rfl
  | close c | register c s | unregister c s | untrack c s | adopt c call driver =>
    simp only [changed]
    rw [if_neg hopen]
    rfl
  | _ => rfl

/-- What a move can do to the list of a connection. -/
theorem openIds_move_cases [Scheduler] (w : Session) (m : Move) (c : Nat) :
    (w.move m).openIds c = w.openIds c ∨
      m = .close c ∧ (w.move m).openIds c = [] ∨
      (∃ s, m = .register c s ∧ (w.move m).openIds c = w.openIds c ++ [s]) ∨
      (∃ conn s, (m = .unregister c s ∨ m = .untrack c s) ∧ w.connections.get? c = some conn ∧
        (w.move m).openIds c = (conn.tracked.unregister s).1.ids) ∨
      ∃ call driver, m = .adopt c call driver ∧ w.isClosed c = false ∧
        (w.move m).openIds c = w.openIds c ++ [w.statements.next] := by
  have hget := get?_connections_move w m c
  by_cases haddressed : m.connection? = some c
  · rw [if_pos haddressed] at hget
    cases hc : w.connections.get? c with
    | none =>
      rw [hc] at hget
      exact .inl (by unfold openIds; rw [hget, hc]; rfl)
    | some conn =>
      rw [hc, Option.map_some] at hget
      rw [openIds_eq hget, openIds_eq hc, isClosed_eq hc]
      cases ho : conn.closed with
      | true => exact .inl (by rw [changed_tracked_of_closed w m ho])
      | false =>
        rw [changed_tracked_of_open w m ho]
        cases m with
        | close d =>
          cases haddressed
          exact .inr (.inl ⟨rfl, rfl⟩)
        | register d s =>
          cases haddressed
          exact .inr (.inr (.inl ⟨s, rfl, Registry.ids_register _ s ()⟩))
        | unregister d s =>
          cases haddressed
          exact .inr (.inr (.inr (.inl ⟨conn, s, .inl rfl, rfl, rfl⟩)))
        | untrack d s =>
          cases haddressed
          exact .inr (.inr (.inr (.inl ⟨conn, s, .inr rfl, rfl, rfl⟩)))
        | adopt d call driver =>
          cases haddressed
          exact .inr (.inr (.inr (.inr ⟨call, driver, rfl, rfl, Registry.ids_register _ _ ()⟩)))
        | _ => exact .inl rfl
  · rw [if_neg haddressed] at hget
    refine .inl ?_
    split at hget
    · rename_i hnew
      have hempty : ∀ conn, w.created? m = some conn → conn.tracked.ids = [] := by
        intro conn h
        cases m with
        | create p config journal held => cases h; rfl
        | _ => cases h
      have hnone : w.connections.get? c = none := by rw [hnew, Roster.get?_next]
      unfold openIds
      rw [hget, hnone]
      cases hm : w.created? m with
      | none => rfl
      | some conn => exact hempty conn hm
    · unfold openIds
      rw [hget]

theorem openIds_close [Scheduler] {w : Session} {c : Nat} (h : w.isClosed c = false) :
    (w.move (.close c)).openIds c = [] := by
  rcases close_cases w c with ⟨hclosed, -⟩ | ⟨conn, hc, ho, -⟩
  · rw [h] at hclosed
    cases hclosed
  · rw [openIds_eq (closed_of_close hc ho)]
    rfl

/-! ## Own statements, in order -/

theorem isSome_statements_move [Scheduler] {w : Session} {s : Nat}
    (h : (w.statements.get? s).isSome = true) (m : Move) :
    ((w.move m).statements.get? s).isSome = true := by
  obtain ⟨statement, hs⟩ := Option.isSome_iff_exists.1 h
  have hold : s ≠ w.statements.next := Roster.ne_next_of_get? hs
  rw [get?_statements_move, if_neg hold, Option.isSome_map, h]

/-- The statement `s` was opened through the connection `c`. -/
def OpenedThrough (w : Session) (c s : Nat) : Prop :=
  ∃ statement, w.statements.get? s = some statement ∧ statement.connection = c

theorem openedThrough_move [Scheduler] {w : Session} {c s : Nat} (h : w.OpenedThrough c s)
    (m : Move) : (w.move m).OpenedThrough c s := by
  obtain ⟨statement, hs, hown⟩ := h
  have hold : s ≠ w.statements.next := Roster.ne_next_of_get? hs
  refine ⟨w.changedStatement m s statement, ?_, ?_⟩
  · rw [get?_statements_move, if_neg hold, hs, Option.map_some]
  · rw [changedStatement_connection, hown]

theorem OpenedThrough.unique {w : Session} {c d s : Nat} (h : w.OpenedThrough c s)
    (h' : w.OpenedThrough d s) : c = d := by
  obtain ⟨statement, hs, rfl⟩ := h
  obtain ⟨statement', hs', rfl⟩ := h'
  rw [hs] at hs'
  cases hs'
  rfl

/-- A list of statements of the connection `c` in the order in which they were numbered. -/
structure FiledUnder (w : Session) (c : Nat) (ids : List Nat) : Prop where
  increasing : ids.Pairwise (· < ·)
  own : ∀ s ∈ ids, w.OpenedThrough c s

/-- Every connection lists statements of its own, in the order in which they were numbered. -/
def Filed (w : Session) : Prop := ∀ c, FiledUnder w c (w.openIds c)

theorem FiledUnder.nodup {w : Session} {c : Nat} {ids : List Nat} (h : FiledUnder w c ids) :
    ids.Nodup :=
  h.increasing.imp Nat.ne_of_lt

theorem FiledUnder.lt_next {w : Session} {c s : Nat} {ids : List Nat} (h : FiledUnder w c ids)
    (hs : s ∈ ids) : s < w.statements.next := by
  obtain ⟨statement, hget, -⟩ := h.own s hs
  exact Roster.lt_next_of_get? hget

theorem Filed.ids_unregister {w : Session} (hw : w.Filed) {c : Nat} {conn : Connection}
    (hc : w.connections.get? c = some conn) (s : Nat) :
    (conn.tracked.unregister s).1.ids = (w.openIds c).filter (· != s) := by
  have hnodup := (hw c).nodup
  rw [openIds_eq hc] at hnodup ⊢
  exact Registry.ids_unregister _ s hnodup

theorem filed_move [Scheduler] {w : Session} (hw : w.Filed) {m : Move}
    (hm : ∀ c s, m ≠ .register c s) : (w.move m).Filed := by
  intro c
  have hfiled := hw c
  have hown : ∀ s ∈ w.openIds c, (w.move m).OpenedThrough c s :=
    fun s hs => openedThrough_move (hfiled.own s hs) m
  rcases openIds_move_cases w m c with hsame | ⟨-, hnone⟩ | ⟨s, hregister, -⟩ |
    ⟨conn, s, -, hc, hfewer⟩ | ⟨call, driver, hadopt, -, hmore⟩
  · rw [hsame]
    exact ⟨hfiled.increasing, hown⟩
  · rw [hnone]
    exact ⟨.nil, by simp⟩
  · exact absurd hregister (hm c s)
  · rw [hfewer, hw.ids_unregister hc]
    exact ⟨hfiled.increasing.filter _, fun t ht => hown t (List.mem_filter.1 ht).1⟩
  · have hnew : (w.move m).OpenedThrough c w.statements.next := by
      rw [hadopt]
      exact ⟨_, by rw [get?_statements_move, if_pos rfl]; rfl, rfl⟩
    rw [hmore]
    constructor
    · refine List.pairwise_append.2 ⟨hfiled.increasing, List.pairwise_singleton _ _, ?_⟩
      intro s hs t ht
      rw [List.mem_singleton.1 ht]
      exact hfiled.lt_next hs
    · intro s hs
      rcases List.mem_append.1 hs with hs | hs
      · exact hown s hs
      · rw [List.mem_singleton.1 hs]
        exact hnew

/-! ## What is listed is open -/

section

variable [Scheduler]

theorem isOpenStatement_move {w : Session} {s : Nat} (hs : (w.statements.get? s).isSome = true)
    (m : Move) :
    (w.move m).isOpenStatement s = (w.isOpenStatement s && !w.closesStatement m s) := by
  obtain ⟨statement, hget⟩ := Option.isSome_iff_exists.1 hs
  have hold : s ≠ w.statements.next := Roster.ne_next_of_get? hget
  have hafter : (w.move m).statements.get? s = some (w.changedStatement m s statement) := by
    rw [get?_statements_move, if_neg hold, hget, Option.map_some]
  rw [isOpenStatement_eq hafter, isOpenStatement_eq hget, changedStatement_closed, Bool.not_or]

/-- What the connections in `live` list is open. -/
def CurrentFor (live : Nat → Prop) (w : Session) : Prop :=
  ∀ c s, live c → s ∈ w.openIds c → w.isOpenStatement s = true

/-- A sweep takes what it closes off the list. -/
theorem not_closed_of_listed {w : Session} (hfiled : w.Filed) {m : Move} {c s : Nat}
    (hdriver : ∀ t, m ≠ .closeAtDriver t) (hs : s ∈ w.openIds c)
    (hs' : s ∈ (w.move m).openIds c) : w.closesStatement m s = false := by
  cases m with
  | closeAtDriver t => exact absurd rfl (hdriver t)
  | close d =>
    rw [← Bool.not_eq_true]
    intro hcloses
    obtain ⟨hopen, hreached⟩ : w.isClosed d = false ∧ s ∈ w.reached (w.closeOrder d) := by
      simpa [closesStatement] using hcloses
    have hattempt : s ∈ w.attempts d := by
      rw [attempts_eq]
      exact List.mem_append_left _ hreached
    have hlisted : s ∈ w.openIds d := by
      rw [attempts, mem_due, closeOrder, List.mem_reverse] at hattempt
      exact hattempt.1
    obtain rfl : c = d := ((hfiled c).own s hs).unique ((hfiled d).own s hlisted)
    rw [openIds_close hopen] at hs'
    cases hs'
  | _ => rfl

theorem currentFor_move {live : Nat → Prop} {w : Session} (hcurrent : CurrentFor live w)
    (hfiled : w.Filed) {m : Move} (hregister : ∀ c s, m ≠ .register c s)
    (hdriver : ∀ s, m ≠ .closeAtDriver s) : CurrentFor live (w.move m) := by
  intro c s hlive hs'
  have hkept : s ∈ w.openIds c → (w.move m).isOpenStatement s = true := by
    intro hs
    obtain ⟨statement, hget, -⟩ := (hfiled c).own s hs
    rw [isOpenStatement_move (by rw [hget]; rfl), hcurrent c s hlive hs,
      not_closed_of_listed hfiled hdriver hs hs']
    rfl
  rcases openIds_move_cases w m c with hsame | ⟨-, hnone⟩ | ⟨t, hm, -⟩ |
    ⟨conn, t, -, hc, hfewer⟩ | ⟨call, driver, hm, -, hmore⟩
  · exact hkept (hsame ▸ hs')
  · rw [hnone] at hs'
    cases hs'
  · exact absurd hm (hregister c t)
  · rw [hfewer, hfiled.ids_unregister hc] at hs'
    exact hkept (List.mem_filter.1 hs').1
  · rw [hmore] at hs'
    rcases List.mem_append.1 hs' with hs | hs
    · exact hkept hs
    · have hnew : (w.move m).statements.get? s = some
          { connection := c, kind := call.kind, sql := call.sql?, driver } := by
        rw [get?_statements_move, if_pos (List.mem_singleton.1 hs), hm]
        rfl
      rw [isOpenStatement_eq hnew]
      rfl

theorem currentFor_moveAll {live : Nat → Prop} {w : Session} {ms : List Move}
    (hcurrent : CurrentFor live w) (hfiled : w.Filed)
    (hms : ∀ m ∈ ms, (∀ c s, m ≠ .register c s) ∧ ∀ s, m ≠ .closeAtDriver s) :
    CurrentFor live (w.moveAll ms) := by
  refine (moveAll_induction (P := fun u => CurrentFor live u ∧ u.Filed) ?_ ⟨hcurrent, hfiled⟩).1.1
  rintro x hx ⟨hcurrent, hfiled⟩
  obtain ⟨hregister, hdriver⟩ := hms x.2 (mem_of_mem_trail hx)
  exact ⟨currentFor_move hcurrent hfiled hregister hdriver, filed_move hfiled hregister⟩

/-! ## Closing one statement -/

omit [Scheduler] in
theorem Calm.closeAtDriver_ne_panicked {w : Session} (hw : w.Calm) (s : Nat) (label : String) :
    (w.closeAtDriver s).2 ≠ .panicked label := by
  cases ho : w.isOpenStatement s with
  | false =>
    rw [closeAtDriver_of_not_open ho]
    exact CloseResult.noConfusion
  | true =>
    have hcalm := hw.panicsOnClose s
    rw [closeAtDriver_snd ho]
    unfold Session.panicsOnClose at hcalm
    cases hf : w.closeFault? s with
    | none => exact CloseResult.noConfusion
    | some fault =>
      cases fault with
      | failed e => exact CloseResult.noConfusion
      | panicked label =>
        rw [hf] at hcalm
        cases hcalm

theorem openIds_untrack {w : Session} (hfiled : w.Filed) (hdrained : w.Drained) (c s : Nat) :
    (w.move (.untrack c s)).openIds c = (w.openIds c).filter (· != s) := by
  have hget := get?_connections_move w (.untrack c s) c
  rw [if_pos (by rfl)] at hget
  cases hc : w.connections.get? c with
  | none =>
    rw [hc] at hget
    unfold openIds
    rw [hget, hc]
    rfl
  | some conn =>
    rw [hc, Option.map_some] at hget
    rw [openIds_eq hget]
    cases ho : conn.closed with
    | true =>
      have hnone : w.openIds c = [] := hdrained.openIds (by rw [isReturned_eq hc, ho])
      rw [changed_tracked_of_closed w _ ho, ← openIds_eq hc, hnone]
      rfl
    | false =>
      rw [changed_tracked_of_open w _ ho]
      exact hfiled.ids_unregister hc s

theorem mem_openIds_untrack {w : Session} (hfiled : w.Filed) (hdrained : w.Drained)
    {c d s t : Nat} (h : t ∈ (w.move (.untrack d s)).openIds c) :
    t ∈ w.openIds c ∧ (c = d → t ≠ s) := by
  by_cases howned : c = d
  · subst howned
    rw [openIds_untrack hfiled hdrained] at h
    obtain ⟨hkept, hne⟩ := List.mem_filter.1 h
    exact ⟨hkept, fun _ => by simpa using hne⟩
  · refine ⟨?_, fun hcd => absurd hcd howned⟩
    rcases openIds_move_cases w (.untrack d s) c with hsame | ⟨hm, -⟩ | ⟨u, hm, -⟩ |
      ⟨conn, u, hm, -⟩ | ⟨call, driver, hm, -⟩
    · rwa [hsame] at h
    · cases hm
    · cases hm
    · rcases hm with hm | hm
      · cases hm
      · cases hm
        exact absurd rfl howned
    · cases hm

theorem openIds_closeAtDriver (w : Session) (s c : Nat) :
    (w.move (.closeAtDriver s)).openIds c = w.openIds c := by
  have hconnections : (w.move (.closeAtDriver s)).connections = w.connections :=
    (closeAtDriver_fields w s).2.2.1
  unfold openIds
  rw [hconnections]

/-- When a statement has been closed, its owner takes it off the list. -/
theorem currentFor_untracked {live : Nat → Prop} {w : Session} (hcurrent : CurrentFor live w)
    (hfiled : w.Filed) (hdrained : w.Drained)
    (hlive : ∀ c, live c → (w.connections.get? c).isSome = true → w.connectionLives c = true)
    {s : Nat} {statement : Statement} (hs : w.statements.get? s = some statement) :
    CurrentFor live ((w.move (.closeAtDriver s)).moveAll
      ((w.move (.closeAtDriver s)).ownerMoves statement (.untrack · s))) := by
  have hothers : ∀ c t, live c → t ∈ w.openIds c → t ≠ s →
      (w.move (.closeAtDriver s)).isOpenStatement t = true := by
    intro c t hc ht hne
    have hopen := hcurrent c t hc ht
    show (w.closeAtDriver s).1.isOpenStatement t = true
    rw [isOpenStatement_closeAtDriver, hopen]
    simp [hne]
  -- `s` is on the list of its owner at most
  have howned : ∀ c, s ∈ w.openIds c → c = statement.connection :=
    fun c hc => ((hfiled c).own s hc).unique ⟨statement, hs, rfl⟩
  have hfiled' : (w.move (.closeAtDriver s)).Filed := filed_move hfiled (by simp)
  have hdrained' : (w.move (.closeAtDriver s)).Drained := drained_move hdrained _
  have howner : (w.move (.closeAtDriver s)).ownerOf? statement = w.ownerOf? statement :=
    ownerOf?_congr (connectionLives_closeAtDriver w s _)
  rw [ownerMoves_eq, howner]
  unfold ownerOf?
  cases hlives : w.connectionLives statement.connection with
  | true =>
    rw [if_pos rfl]
    dsimp only
    intro c t hc ht
    obtain ⟨hkept, hne⟩ := mem_openIds_untrack hfiled' hdrained' ht
    obtain ⟨found, hfound, -⟩ := (hfiled' c).own t hkept
    rw [openIds_closeAtDriver] at hkept
    have hother : t ≠ s := by
      rintro rfl
      exact hne (howned c hkept) rfl
    rw [isOpenStatement_move (by rw [hfound]; rfl), hothers c t hc hkept hother]
    rfl
  | false =>
    rw [if_neg Bool.false_ne_true]
    dsimp only
    intro c t hc ht
    rw [openIds_closeAtDriver] at ht
    refine hothers c t hc ht ?_
    rintro rfl
    obtain rfl : c = statement.connection := howned c ht
    have hmade : (w.connections.get? statement.connection).isSome = true := by
      cases hget : w.connections.get? statement.connection with
      | none => simp [openIds, hget] at ht
      | some conn => rfl
    rw [hlive _ hc hmade] at hlives
    cases hlives

theorem currentFor_closeStatement {live : Nat → Prop} {w : Session}
    (hcurrent : CurrentFor live w) (hfiled : w.Filed) (hdrained : w.Drained) (hcalm : w.Calm)
    (hlive : ∀ c, live c → (w.connections.get? c).isSome = true → w.connectionLives c = true)
    (s : Nat) : CurrentFor live (w.moveAll (w.closeStatementMoves s)) := by
  unfold closeStatementMoves
  cases hs : w.statements.get? s with
  | none => exact hcurrent
  | some statement =>
    have huntracked := currentFor_untracked hcurrent hfiled hdrained hlive hs
    have hfiled' : ((w.move (.closeAtDriver s)).moveAll
        ((w.move (.closeAtDriver s)).ownerMoves statement (.untrack · s))).Filed := by
      have hclosed : (w.move (.closeAtDriver s)).Filed := filed_move hfiled (by simp)
      rw [ownerMoves_eq]
      cases (w.move (.closeAtDriver s)).ownerOf? statement with
      | none => exact hclosed
      | some c => exact filed_move hclosed (by simp)
    have hpanic := hcalm.closeAtDriver_ne_panicked s
    dsimp only
    rw [moveAll_cons]
    cases hr : (w.closeAtDriver s).2 with
    | alreadyClosed => exact huntracked
    | closed =>
      dsimp only
      rw [moveAll_append]
      exact currentFor_moveAll huntracked hfiled' (by simp)
    | failed e =>
      dsimp only
      rw [moveAll_append]
      refine currentFor_moveAll huntracked hfiled' ?_
      unfold ownerMoves
      split <;> simp
    | panicked label => exact absurd hr (hpanic label)

/-! ## Undisturbed operations -/

/-- Operations by which a caller takes tracking into its own hands, and scripts of a panic. -/
def Op.disturbs : Op → Bool
  | .connection _ (.register _) | .connection _ (.unregister _)
  | .script _ (.panicOnClose _) => true
  | _ => false

def Move.disturbs : Move → Bool
  | .register _ _ | .script _ (.panicOnClose _) => true
  | _ => false

/-- No close is scripted to panic, and the lists are in order. -/
structure InOrder (w : Session) : Prop where
  calm : w.Calm
  filed : w.Filed
  drained : w.Drained

omit [Scheduler] in
theorem inOrder_start : InOrder {} where
  calm := by simp [Calm]
  filed := fun c => ⟨by simp [openIds], by simp [openIds]⟩
  drained := by simp [Drained]

theorem inOrder_move {w : Session} (hw : w.InOrder) {m : Move} (hm : m.disturbs = false) :
    (w.move m).InOrder where
  calm := calm_move hw.calm (by rintro k label rfl; cases hm)
  filed := filed_move hw.filed (by rintro c s rfl; cases hm)
  drained := drained_move hw.drained m

theorem inOrder_moveAll {w : Session} (hw : w.InOrder) {ms : List Move}
    (hms : ∀ m ∈ ms, m.disturbs = false) :
    (w.moveAll ms).InOrder ∧ ∀ x ∈ w.trail ms, x.1.InOrder :=
  moveAll_induction (fun x hx hin => inOrder_move hin (hms x.2 (mem_of_mem_trail hx))) hw

theorem not_disturbs_of_mem {w : Session} {op : Op} (hop : op.disturbs = false) {m : Move}
    (hm : m ∈ w.moves op) : m.disturbs = false := by
  have hbelongs := moves_belong w op m hm
  cases m with
  | register c s =>
    cases hbelongs
    cases hop
  | script j line =>
    cases line with
    | panicOnClose label =>
      obtain ⟨c, rfl⟩ := hbelongs
      cases hop
    | failNext e => rfl
    | failClose label e => rfl
  | _ => rfl

/-- What living connections list stays open until it is taken off the list. -/
theorem current_step {w : Session} (hw : w.InOrder)
    (hcurrent : CurrentFor (w.connectionLives · = true) w) {op : Op}
    (hop : op.disturbs = false) :
    CurrentFor ((w.step op).1.connectionLives · = true) (w.step op).1 := by
  let live : Nat → Prop := fun c =>
    (w.connections.get? c).isSome = true → w.connectionLives c = true
  have hbefore : CurrentFor live w := by
    intro c s hlive hs
    refine hcurrent c s (hlive ?_) hs
    cases hc : w.connections.get? c with
    | none => simp [openIds, hc] at hs
    | some conn => rfl
  have hafter : CurrentFor live (w.step op).1 := by
    rw [step_eq_moves]
    by_cases hclose : ∃ s, op = .statement s .close
    · obtain ⟨s, rfl⟩ := hclose
      simp only [moves]
      cases w.heldStatement? s with
      | none => exact hbefore
      | some statement =>
        exact currentFor_closeStatement hbefore hw.filed hw.drained hw.calm (fun _ h => h) s
    · refine currentFor_moveAll hbefore hw.filed ?_
      intro m hm
      refine ⟨?_, ?_⟩
      · rintro c s rfl
        cases not_disturbs_of_mem hop hm
      · rintro s rfl
        exact hclose ⟨s, moves_belong w op _ hm⟩
  intro c s hlives hs
  exact hafter c s (fun hmade => lives_of_step hmade hlives) hs

/-! ## Undisturbed runs -/

/-- Callers leave tracking to the calls that open and close statements, and no close is scripted to
panic. -/
def Undisturbed (ops : List Op) : Prop := ∀ op ∈ ops, op.disturbs = false

theorem current_run {w : Session} (hw : w.InOrder)
    (hcurrent : CurrentFor (w.connectionLives · = true) w) {ops : List Op}
    (hops : Undisturbed ops) : CurrentFor ((w.run ops).connectionLives · = true) (w.run ops) := by
  induction ops generalizing w with
  | nil => exact hcurrent
  | cons op ops ih =>
    have hop : op.disturbs = false := hops op (List.mem_cons_self ..)
    have hstep : (w.step op).1.InOrder := by
      rw [step_eq_moves]
      exact (inOrder_moveAll hw fun m hm => not_disturbs_of_mem hop hm).1
    exact ih hstep (current_step hw hcurrent hop) fun o ho => hops o (List.mem_cons_of_mem _ ho)

theorem not_disturbs_of_history {ops : List Op} (hops : Undisturbed ops) {x : Session × Move}
    (hx : x ∈ history {} ops) : x.2.disturbs = false := by
  obtain ⟨before, op, after, rfl, htrail⟩ := mem_history.1 hx
  have hop : op.disturbs = false := hops op (List.mem_append_right _ (List.mem_cons_self ..))
  exact not_disturbs_of_mem hop (mem_of_mem_trail htrail)

theorem inOrder_history {ops : List Op} (hops : Undisturbed ops) :
    (run {} ops).InOrder ∧ ∀ x ∈ history {} ops, x.1.InOrder :=
  run_induction (fun _ hx hin => inOrder_move hin (not_disturbs_of_history hops hx)) inOrder_start

/-! ## Declined registrations -/

/-- The registration of the statement `s` was declined when it was opened. -/
def Declined (ops : List Op) (s : Nat) : Prop := ∃ x ∈ history {} ops, Declines x.1 s x.2

/-- The statement `s` has been numbered, and no connection lists it. -/
structure Unlisted (s : Nat) (w : Session) : Prop where
  numbered : (w.statements.get? s).isSome = true
  absent : ∀ c, s ∉ w.openIds c

theorem unlisted_move {w : Session} {s : Nat} (h : Unlisted s w) (hfiled : w.Filed) {m : Move}
    (hm : m.disturbs = false) : Unlisted s (w.move m) where
  numbered := isSome_statements_move h.numbered m
  absent := by
    intro c hs
    rcases openIds_move_cases w m c with hsame | ⟨-, hnone⟩ | ⟨t, rfl, -⟩ |
      ⟨conn, t, -, hc, hfewer⟩ | ⟨call, driver, -, -, hmore⟩
    · exact h.absent c (hsame ▸ hs)
    · rw [hnone] at hs
      cases hs
    · cases hm
    · rw [hfewer, hfiled.ids_unregister hc] at hs
      exact h.absent c (List.mem_filter.1 hs).1
    · rw [hmore] at hs
      rcases List.mem_append.1 hs with hs | hs
      · exact h.absent c hs
      · obtain ⟨statement, hget⟩ := Option.isSome_iff_exists.1 h.numbered
        exact Roster.ne_next_of_get? hget (List.mem_singleton.1 hs)

theorem unlisted_of_declines {w : Session} {s : Nat} {m : Move} (hfiled : w.Filed)
    (h : Declines w s m) : Unlisted s (w.move m) := by
  obtain ⟨c, call, driver, rfl, hclosed, rfl⟩ := h
  constructor
  · rw [get?_statements_move, if_pos rfl]
    rfl
  · intro d hs
    have hnew : ∀ e, w.statements.next ∉ w.openIds e :=
      fun e he => Nat.lt_irrefl _ ((hfiled e).lt_next he)
    rcases openIds_move_cases w (.adopt c call driver) d with hsame | ⟨hm, -⟩ | ⟨t, hm, -⟩ |
      ⟨conn, t, hm, -⟩ | ⟨call', driver', hm, hopen, -⟩
    · exact hnew d (hsame ▸ hs)
    · cases hm
    · cases hm
    · rcases hm with hm | hm <;> cases hm
    · cases hm
      rw [hclosed] at hopen
      cases hopen

/-- A statement whose registration was declined is never listed. -/
theorem unlisted_of_declined {ops : List Op} (hops : Undisturbed ops) {s : Nat}
    (h : Declined ops s) : Unlisted s (run {} ops) := by
  obtain ⟨⟨u, m⟩, hx, hdeclines⟩ := h
  obtain ⟨before, after, hsplit⟩ := List.append_of_mem hx
  have hu : u.InOrder := (inOrder_history hops).2 _ hx
  have hmove : (u.move m).InOrder := inOrder_move hu (not_disturbs_of_history hops hx)
  have hrest : ∀ y ∈ after, y.2.disturbs = false := by
    intro y hy
    refine not_disturbs_of_history hops ?_
    rw [hsplit]
    exact List.mem_append_right _ (List.mem_cons_of_mem _ hy)
  rw [(history_rest hsplit).2]
  refine (moveAll_induction (P := fun v => Unlisted s v ∧ v.Filed) ?_
    ⟨unlisted_of_declines hu.filed hdeclines, hmove.filed⟩).1.1
  rintro ⟨v, n⟩ hv ⟨hunlisted, hfiled⟩
  have hn : n.disturbs = false := by
    obtain ⟨y, hy, rfl⟩ := List.mem_map.1 (mem_of_mem_trail hv)
    exact hrest y hy
  exact ⟨unlisted_move hunlisted hfiled hn, filed_move hfiled (by rintro c t rfl; cases hn)⟩

/-- A registration is declined when the call that opens the statement was asked to close the
connection before it returns. -/
theorem asked_of_declines {w u : Session} {c : Nat} {call : Driver.OpenCall}
    {driver : Driver.Statement}
    (h : (u, .adopt c call driver) ∈ w.trail (w.moves (.connection c (.openStatement call))))
    (hclosed : u.isClosed c = true) : ∃ conn, w.connections.get? c = some conn ∧
      conn.closed = false ∧ conn.closesOnOpen = true := by
  rcases openStatement_cases w c call with hnone | ⟨conn, hc, -, ho, hmoves⟩
  · rw [hnone] at h
    cases h
  · refine ⟨conn, hc, ho, ?_⟩
    rw [← Bool.not_eq_false]
    intro hasked
    -- without a close in between, the connection is as open as the call has found it
    have hstill : (w.move (.callOpen c call)).isClosed c = false := by
      have hget := get?_connections_move w (.callOpen c call) c
      rw [if_pos (by rfl), hc, Option.map_some] at hget
      rw [isClosed_eq hget, changed_closed]
      exact ho
    have hlast : (u, .adopt c call driver) ∈
        (w.move (.callOpen c call)).trail (w.openedMoves c conn call) := by
      rw [hmoves, hasked] at h
      rcases List.mem_cons.1 h with h | h
      · cases h
      · exact h
    have hsame : u = w.move (.callOpen c call) := by
      unfold openedMoves at hlast
      split at hlast
      · cases hlast
      · exact (Prod.mk.inj (List.mem_singleton.1 hlast)).1
      · exact (Prod.mk.inj (List.mem_singleton.1 hlast)).1
    rw [hsame, hstill] at hclosed
    cases hclosed

/-! ## Failed closes -/

/-- A move closes the statement `s` at the driver, and the driver refuses. -/
def FailsToClose (w : Session) (s : Nat) (m : Move) : Prop :=
  (m = .closeAtDriver s ∧ ∃ e, (w.closeAtDriver s).2 = .failed e) ∨
    ∃ c e, m = .close c ∧ w.isClosed c = false ∧ (s, e) ∈ w.failures (w.closeOrder c)

theorem ended_of_closes {w : Session} {m : Move} {s : Nat} (hs : w.isOpenStatement s = true)
    (h : w.closesStatement m s = true) : Ended s (w.move m) := by
  cases hget : w.statements.get? s with
  | none => simp [isOpenStatement, hget] at hs
  | some statement =>
    have hold : s ≠ w.statements.next := Roster.ne_next_of_get? hget
    unfold Ended
    rw [get?_statements_move, if_neg hold, hget, Option.map_some, Option.map_some,
      changedStatement_closed, h, Bool.or_true]

theorem ended_of_failsToClose {w : Session} {m : Move} {s : Nat} (h : FailsToClose w s m) :
    Ended s (w.move m) := by
  rcases h with ⟨rfl, e, hfailed⟩ | ⟨c, e, rfl, hopen, hfailed⟩
  · have hs : w.isOpenStatement s = true := by
      rw [← Bool.not_eq_false]
      intro hclosed
      rw [closeAtDriver_of_not_open hclosed] at hfailed
      cases hfailed
    exact ended_of_closes hs (by simp [closesStatement])
  · obtain ⟨t, hcompleted, hpair⟩ := List.mem_filterMap.1 hfailed
    obtain ⟨e', -, hsame⟩ := Option.map_eq_some_iff.1 hpair
    obtain ⟨rfl, rfl⟩ := Prod.mk.inj hsame
    have hdue : t ∈ w.due (w.closeOrder c) := List.takeWhile_subset _ hcompleted
    have hreached : t ∈ w.reached (w.closeOrder c) := List.mem_append_left _ hcompleted
    exact ended_of_closes (mem_due.1 hdue).2 (by simp [closesStatement, hopen, hreached])

/-! ## The law -/

omit [Scheduler] in
theorem abandoned_of_calm {w : Session} (hw : w.Calm) (c : Nat) : w.abandoned c = [] := by
  have hall : (w.attempts c).dropWhile (!w.panicsOnClose ·) = [] := by
    rw [List.dropWhile_eq_nil_iff]
    intro s _
    rw [hw.panicsOnClose]
    rfl
  unfold abandoned
  rw [hall]
  rfl

/-- In an undisturbed run a statement is tracked as long as it is open, unless its registration was
declined. -/
theorem covered_of_undisturbed {ops : List Op} (hops : Undisturbed ops) {s : Nat}
    (h : ¬ Declined ops s) : Covered s (run {} ops) := by
  have hstart : Covered s {} := by
    intro statement hs
    simp at hs
  refine (run_induction ?_ hstart).1
  intro x hx hcovered
  obtain ⟨op, hop, hensured⟩ := ensured_history hx
  refine covered_move hcovered hensured ?_ ?_
  · rintro c t rfl
    cases hops _ hop
  · rintro (⟨c, -, habandons⟩ | hdeclines)
    · have hbehind := habandons.behind
      rw [abandoned_of_calm ((inOrder_history hops).2 x hx).calm] at hbehind
      cases hbehind
    · exact h ⟨x, hx, hdeclines⟩

/-- The statement `s` was opened through the connection `c` and is not closed. -/
def OpenThrough (w : Session) (c s : Nat) : Prop :=
  ∃ statement, w.statements.get? s = some statement ∧ statement.connection = c ∧
    statement.closed = false

/-- After the run `ops`, the lists of open statements tell exactly which statements are open, but
for those whose registration was declined. -/
structure ExactTracking (ops : List Op) : Prop where
  /-- A list names each statement once, in the order in which they were opened. -/
  increasing : ∀ c, ((run {} ops).openIds c).Pairwise (· < ·)
  /-- No two connections list the same statement. -/
  apart : ∀ c d s, s ∈ (run {} ops).openIds c → s ∈ (run {} ops).openIds d → c = d
  listed : ∀ c s, (run {} ops).connectionLives c = true →
    (s ∈ (run {} ops).openIds c ↔ (run {} ops).OpenThrough c s ∧ ¬ Declined ops s)
  /-- A registration is declined only if the call that opened the statement, through a connection
  that was open, closed the connection before it returned. -/
  declined : ∀ s, Declined ops s → ∃ before c call after conn,
    ops = before ++ .connection c (.openStatement call) :: after ∧
      (run {} before).connections.get? c = some conn ∧ conn.closed = false ∧
      conn.closesOnOpen = true
  /-- A statement that the driver has failed to close is closed and not listed. -/
  failed : ∀ x ∈ history {} ops, ∀ s, FailsToClose x.1 s x.2 →
    Ended s (run {} ops) ∧
      ∀ c, (run {} ops).connectionLives c = true → s ∉ (run {} ops).openIds c

theorem exact_tracking {ops : List Op} (hops : Undisturbed ops) : ExactTracking ops := by
  have hfiled : (run {} ops).Filed := (inOrder_history hops).1.filed
  have hcurrent : CurrentFor ((run {} ops).connectionLives · = true) (run {} ops) :=
    current_run inOrder_start (by intro c s _ hs; simp [openIds] at hs) hops
  refine ⟨fun c => (hfiled c).increasing,
    fun c d s hc hd => ((hfiled c).own s hc).unique ((hfiled d).own s hd), ?_, ?_, ?_⟩
  · intro c s hlives
    constructor
    · intro hs
      obtain ⟨statement, hget, hown⟩ := (hfiled c).own s hs
      have hopen := hcurrent c s hlives hs
      rw [isOpenStatement_eq hget, Bool.not_eq_true'] at hopen
      exact ⟨⟨statement, hget, hown, hopen⟩,
        fun hdeclined => (unlisted_of_declined hops hdeclined).absent c hs⟩
    · rintro ⟨⟨statement, hget, rfl, hopen⟩, hdeclined⟩
      obtain ⟨conn, hc, -, htracked⟩ := covered_of_undisturbed hops hdeclined statement hget hopen
      rwa [openIds_eq hc]
  · rintro s ⟨⟨u, m⟩, hx, c, call, driver, rfl, hclosed, -⟩
    obtain ⟨before, op, after, rfl, htrail⟩ := mem_history.1 hx
    obtain rfl : op = .connection c (.openStatement call) := ensured_moves _ _ _ htrail
    obtain ⟨conn, hc, ho, hasked⟩ := asked_of_declines htrail hclosed
    exact ⟨before, c, call, after, conn, rfl, hc, ho, hasked⟩
  · intro x hx s hfails
    have hended : Ended s (run {} ops) := by
      obtain ⟨before, after, hsplit⟩ := List.append_of_mem hx
      rw [(history_rest hsplit).2]
      exact (moveAll_induction (fun y _ hy => ended_move hy y.2) (ended_of_failsToClose hfails)).1
    refine ⟨hended, ?_⟩
    intro c hlives hs
    obtain ⟨statement, hget, hclosed⟩ := Option.map_eq_some_iff.1 hended
    have hopen := hcurrent c s hlives hs
    rw [isOpenStatement_eq hget, hclosed] at hopen
    cases hopen

/-- Every living connection lists exactly the statements that were opened through it and are not
closed. -/
def ListsAllOpen (ops : List Op) : Prop :=
  ∀ c s, (run {} ops).connectionLives c = true →
    (s ∈ (run {} ops).openIds c ↔ (run {} ops).OpenThrough c s)

end

section

attribute [local instance] Scheduler.exact

/-- A connection is asked to be closed by the call that opens its second statement; the driver
refuses to close the first one. -/
def closedWithinCall : List Op :=
  [.newPool .recycling, .pool 0 (.connect none), .connection 1 (.openStatement (.prepare "A" {})),
    .script 1 (.failClose "A" { message := "busy" }), .connection 1 .closeOnOpen,
    .connection 1 (.openStatement (.prepare "B" {}))]

theorem exact_tracking_closedWithinCall :
    Undisturbed closedWithinCall ∧ ExactTracking closedWithinCall :=
  ⟨by unfold Undisturbed; decide, exact_tracking (by unfold Undisturbed; decide)⟩

/-- A statement whose connection is closed by the call that opens it is open and not listed. -/
theorem closedWithinCall_lists_too_little :
    Undisturbed closedWithinCall ∧ ¬ ListsAllOpen closedWithinCall := by
  refine ⟨by unfold Undisturbed; decide, ?_⟩
  intro hlists
  have hopen : (run {} closedWithinCall).OpenThrough 1 2 := ⟨_, rfl, rfl, rfl⟩
  have hlisted := (hlists 1 2 (by decide)).2 hopen
  revert hlisted
  decide

end

end ConnLease.Session
