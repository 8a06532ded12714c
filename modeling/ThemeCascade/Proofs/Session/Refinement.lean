import ThemeCascade.Proofs.Cascade.Refinement
import ThemeCascade.Proofs.Session.Semantics

/-! # Sessions that share a table

Steps of any number of sessions are taken in any order on one table. Each session is answered as if it
were alone and nothing had been remembered. -/

namespace ThemeCascade

namespace Session

variable {config : Configuration} {scope : Scope}

/-- The scope after a step. Only a declaration can change it. -/
def scopeAfter (scope : Scope) : Step → Scope
  | .declare declaration => scope.enter declaration
  | .resolve _ | .style _ => scope

/-- What a session has declared determines its scope. A step of another session declares nothing. -/
theorem component?_declarations_append (session owner : Nat) (past : List (Nat × Step))
    (step : Step) :
    Declaration.component? (declarations session (past ++ [(owner, step)])) =
      if owner = session then
        (scopeAfter ⟨Declaration.component? (declarations session past)⟩ step).component
      else Declaration.component? (declarations session past) := by
  rw [declarations_append]
  by_cases h : owner = session
  · cases step with
    | declare declaration =>
        simp [declarations, h, scopeAfter, Scope.enter_component,
          Declaration.component?_append_singleton]
    | resolve markup => simp [declarations, h, scopeAfter]
    | style markup => simp [declarations, h, scopeAfter]
  · rw [declarations_of_ne h, List.append_nil, if_neg h]

/-! ## Answers of one session -/

theorem element?_of_component_none {markup : Markup} (h : scope.component = none) :
    scope.element? markup = none := by
  simp [Scope.element?, h]

theorem element?_of_component_some {component : Text} {markup : Markup}
    (h : scope.component = some component) :
    scope.element? markup =
      if markup.tag = [] then none else some (markup.element component) := by
  rw [Scope.element?, h]
  rfl

theorem yields_resolve (scope : Scope) (markup : Markup) :
    Traced.Yields (TokenTable.Faithful config) (resolve (.ofConfiguration config) scope markup)
      (declaredResolution config scope.component markup) := by
  unfold resolve declaredResolution
  cases h : scope.component with
  | none =>
      rw [element?_of_component_none h]
      exact Traced.yields_pure _
  | some component =>
      rw [element?_of_component_some h]
      by_cases htag : markup.tag = []
      · simp only [if_pos htag]
        exact Traced.yields_pure _
      · simp only [if_neg htag]
        exact Cascade.yields_resolve config _

/-- Without tokens there is no edit, so the cases without an element need no guard of their own. -/
theorem declaredEdit_eq_plan (component : Option Text) (markup : Markup) :
    declaredEdit config component markup =
      ClassList.Edit.plan markup.classValue (declaredResolution config component markup).tokens := by
  unfold declaredEdit declaredResolution
  cases component with
  | none => rfl
  | some component =>
      by_cases htag : markup.tag = []
      · simp only [if_pos htag]
        rfl
      · simp only [if_neg htag, Cascade.resolveOnce_answer]

theorem yields_style (scope : Scope) (markup : Markup) :
    Traced.Yields (TokenTable.Faithful config) (style (.ofConfiguration config) scope markup)
      (declaredEdit config scope.component markup) := by
  rw [declaredEdit_eq_plan]
  apply (yields_resolve scope markup).bind
  cases ClassList.Edit.plan markup.classValue (declaredResolution config scope.component markup).tokens with
  | none => exact Traced.yields_pure none
  | some edit => exact (Traced.yields_note _).bind (Traced.yields_pure (some edit))

/-- A step leaves the session in its next scope and is answered from the component there. -/
theorem yields_step (scope : Scope) (step : Step) :
    Traced.Yields (TokenTable.Faithful config) (Session.step (.ofConfiguration config) scope step)
      (scopeAfter scope step, declaredAnswer config (scopeAfter scope step).component step) := by
  cases step with
  | declare declaration =>
      intro table h
      exact ⟨rfl, h⟩
  | resolve markup => exact (yields_resolve scope markup).bind (Traced.yields_pure _)
  | style markup => exact (yields_style scope markup).bind (Traced.yields_pure _)

end Session

namespace Workshop

open Session

variable {config : Configuration} {past : List (Nat × Step)} {workshop : Workshop}

/-- The table is faithful, and every session stands where its own declarations have led it. -/
structure Represents (config : Configuration) (past : List (Nat × Step)) (workshop : Workshop) :
    Prop where
  faithful : TokenTable.Faithful config workshop.table
  component_eq : ∀ session,
    (workshop.scope session).component = Declaration.component? (declarations session past)

theorem represents_empty (config : Configuration) : Represents config [] empty := by
  refine ⟨TokenTable.faithful_empty config, ?_⟩
  intro session
  simp [declarations, Workshop.scope, empty, Scope.empty]

theorem Represents.scope_eq (h : Represents config past workshop) (session : Nat) :
    workshop.scope session = ⟨Declaration.component? (declarations session past)⟩ := by
  rw [← h.component_eq session]

theorem scope_insert (table : TokenTable) (scopes : Std.ExtTreeMap Nat Scope) (owner session : Nat)
    (next : Scope) :
    Workshop.scope ⟨table, scopes.insert owner next⟩ session =
      if owner = session then next else Workshop.scope ⟨table, scopes⟩ session := by
  simp [Workshop.scope, Std.ExtTreeMap.getD_insert]

theorem run_step (cascade : Cascade) (session : Nat) (step : Step) (workshop : Workshop) :
    (Workshop.step cascade session step).run workshop =
      let outcome := (Session.step cascade (workshop.scope session) step).run workshop.table
      let next := outcome.answer.1
      ⟨⟨next.component, outcome.answer.2⟩, outcome.events,
        { table := outcome.memory, scopes := workshop.scopes.insert session next }⟩ := rfl

/-- One step of one session: its reply is the declared one, and all sessions keep their places. -/
theorem Represents.step (h : Represents config past workshop) (owner : Nat) (step : Step) :
    let outcome := (Workshop.step (.ofConfiguration config) owner step).run workshop
    outcome.answer = declaredReply config (declarations owner (past ++ [(owner, step)])) step ∧
      Represents config (past ++ [(owner, step)]) outcome.memory := by
  have hscope := h.scope_eq owner
  obtain ⟨hanswer, hfaithful⟩ := yields_step (workshop.scope owner) step _ h.faithful
  have hnext : (scopeAfter (workshop.scope owner) step).component =
      Declaration.component? (declarations owner (past ++ [(owner, step)])) := by
    rw [component?_declarations_append, if_pos rfl, hscope]
  dsimp only
  rw [run_step]
  refine ⟨?_, hfaithful, ?_⟩
  · simp only [hanswer, declaredReply, hnext]
  · intro session
    simp only [hanswer, scope_insert]
    by_cases howner : owner = session
    · subst howner
      rw [if_pos rfl, hnext]
    · rw [if_neg howner, component?_declarations_append, if_neg howner]
      exact h.component_eq session

theorem run_cons (cascade : Cascade) (session : Nat) (step : Step) (steps : List (Nat × Step))
    (workshop : Workshop) :
    ((run cascade ((session, step) :: steps)).run workshop).answer =
      let first := (Workshop.step cascade session step).run workshop
      first.answer :: ((run cascade steps).run first.memory).answer := by
  rw [run, List.mapM_cons]
  rfl

/-- From a workshop with a past, every step is answered from the session's own declarations, those of
the past included. -/
theorem Represents.run (h : Represents config past workshop) (steps : List (Nat × Step)) (i : Nat) :
    ((Workshop.run (.ofConfiguration config) steps).run workshop).answer[i]? =
      steps[i]?.map fun (session, step) =>
        declaredReply config (declarations session (past ++ steps.take (i + 1))) step := by
  induction steps generalizing past workshop i with
  | nil => rfl
  | cons entry steps ih =>
      obtain ⟨owner, step⟩ := entry
      obtain ⟨hreply, hnext⟩ := h.step owner step
      rw [run_cons]
      cases i with
      | zero => simpa using hreply
      | succ i => simpa using ih hnext i

/-! ## One session among the others -/

/-- The replies to the steps of one session. -/
def repliesTo (session : Nat) (steps : List (Nat × Step)) (replies : List Reply) : List Reply :=
  ((steps.zip replies).filter fun entry => entry.1.1 = session).map Prod.snd

theorem repliesTo_cons_self (session : Nat) (step : Step) (steps : List (Nat × Step)) (reply : Reply)
    (replies : List Reply) :
    repliesTo session ((session, step) :: steps) (reply :: replies) =
      reply :: repliesTo session steps replies := by
  simp [repliesTo]

theorem repliesTo_cons_of_ne {session owner : Nat} (h : owner ≠ session) (step : Step)
    (steps : List (Nat × Step)) (reply : Reply) (replies : List Reply) :
    repliesTo session ((owner, step) :: steps) (reply :: replies) = repliesTo session steps replies := by
  simp [repliesTo, h]

/-- Two workshops in which a session has made the same declarations go on giving it the same replies,
also if it is alone in one of them. -/
theorem Represents.repliesTo_eq {session : Nat} {alonePast : List (Nat × Step)} {alone : Workshop}
    (h : Represents config past workshop) (halone : Represents config alonePast alone)
    (hpast : declarations session past = declarations session alonePast)
    (steps : List (Nat × Step)) :
    repliesTo session steps ((Workshop.run (.ofConfiguration config) steps).run workshop).answer =
      ((Workshop.run (.ofConfiguration config) (steps.filter fun entry => entry.1 = session)).run
        alone).answer := by
  induction steps generalizing past workshop alonePast alone with
  | nil => rfl
  | cons entry steps ih =>
      obtain ⟨owner, step⟩ := entry
      obtain ⟨hreply, hnext⟩ := h.step owner step
      rw [run_cons]
      dsimp only
      by_cases howner : owner = session
      · subst howner
        obtain ⟨haloneReply, haloneNext⟩ := halone.step owner step
        have hboth : declarations owner (past ++ [(owner, step)]) =
            declarations owner (alonePast ++ [(owner, step)]) := by
          rw [declarations_append, declarations_append, hpast]
        rw [repliesTo_cons_self, List.filter_cons_of_pos (by simp), run_cons,
          ih hnext haloneNext hboth, hreply, hboth, ← haloneReply]
      · have hsame : declarations session (past ++ [(owner, step)]) =
            declarations session alonePast := by
          rw [declarations_append, declarations_of_ne howner, List.append_nil, hpast]
        rw [repliesTo_cons_of_ne howner, List.filter_cons_of_neg (by simpa using howner),
          ih hnext halone hsame]

/-- Every step has a reply, computed from the declarations that its session has made until then. No
reply names an empty component, and each session has the replies that it would have alone. -/
structure RunSpec (config : Configuration) (steps : List (Nat × Step)) (replies : List Reply) :
    Prop where
  reply_eq : ∀ i : Nat, replies[i]? = steps[i]?.map fun (session, step) =>
    declaredReply config (declarations session (steps.take (i + 1))) step
  component_ne_nil : ∀ reply ∈ replies, reply.component ≠ some []
  alone : ∀ session, repliesTo session steps replies =
    ((run (.ofConfiguration config) (steps.filter fun entry => entry.1 = session)).run empty).answer

/-- Neither the table nor the steps of other sessions make a difference to a reply. -/
theorem run_spec (config : Configuration) (steps : List (Nat × Step)) :
    RunSpec config steps ((run (.ofConfiguration config) steps).run empty).answer := by
  have hempty := represents_empty config
  have hreply := hempty.run steps
  refine ⟨hreply, ?_, fun session => hempty.repliesTo_eq hempty rfl steps⟩
  intro reply hmem
  obtain ⟨i, hi⟩ := List.mem_iff_getElem?.mp hmem
  rw [hreply i] at hi
  obtain ⟨⟨session, step⟩, -, rfl⟩ := Option.map_eq_some_iff.mp hi
  exact Declaration.component?_ne_nil _

end Workshop

end ThemeCascade
