/-
  ClusterBoot.Proofs.Actions
  ────────────────────────────────
  **REASONING ABOUT ACTIONS.**

  What an action does in a world is computed part by part (`runIn_bind`).  Two
  kinds of facts are carried through whole programs from their parts:

    • `Satisfies R` — the worlds before and after are related, where `R` may
      look at whether the action succeeded,
    • `Follows plan` — the requests are those of the plan, in order, up to the
      first that fails.
-/
import ClusterBoot.World

namespace ClusterBoot

@[simp] theorem World.tree_ofTree (tree : FileTree) : (World.ofTree tree).tree = tree := rfl

@[simp] theorem World.requests_ofTree (tree : FileTree) : (World.ofTree tree).requests = [] := rfl

@[simp] theorem World.arrived_ofTree (tree : FileTree) : (World.ofTree tree).arrived = [] := rfl

namespace Action

variable {ε ε' α β : Type}

/-! ## §1. What an action does, part by part. -/

@[simp] theorem runIn_ofFunction (f : World → Except ε α × World) (w : World) :
    (ofFunction f).runIn w = f w := rfl

/-- One action after another. -/
theorem runIn_bind (a : Action ε α) (f : α → Action ε β) (w : World) :
    (a >>= f).runIn w = match a.runIn w with
      | (.ok x, w) => (f x).runIn w
      | (.error e, w) => (.error e, w) := by
  have hstep : (a >>= f).runIn w = match a.runIn w with
      | (r, w) => (ExceptT.bindCont f r).run w := rfl
  rw [hstep]
  rcases a.runIn w with ⟨e | x, v⟩
  · rfl
  · rfl

/-- The second action starts where the first succeeded. -/
theorem runIn_bind_of_ok {a : Action ε α} {f : α → Action ε β} {w w' : World} {x : α}
    (h : a.runIn w = (.ok x, w')) : (a >>= f).runIn w = (f x).runIn w' := by
  rw [runIn_bind, h]

/-- A failure of the first action is the end. -/
theorem runIn_bind_of_error {a : Action ε α} {f : α → Action ε β} {w w' : World} {e : ε}
    (h : a.runIn w = (.error e, w')) : (a >>= f).runIn w = (.error e, w') := by
  rw [runIn_bind, h]

/-- If two actions succeed, each of them does. -/
theorem bind_ok {a : Action ε α} {f : α → Action ε β} {w w' : World} {y : β}
    (h : (a >>= f).runIn w = (.ok y, w')) :
    ∃ x v, a.runIn w = (.ok x, v) ∧ (f x).runIn v = (.ok y, w') := by
  rw [runIn_bind] at h
  rcases ha : a.runIn w with ⟨e | x, v⟩
  · rw [ha] at h
    simp at h
  · rw [ha] at h
    exact ⟨x, v, rfl, h⟩

/-- A value changes nothing. -/
theorem pure_ok {x y : α} {w w' : World} (h : (pure x : Action ε α).runIn w = (.ok y, w')) :
    y = x ∧ w' = w := by
  obtain ⟨hvalue, hworld⟩ := Prod.mk.inj h
  exact ⟨(Except.ok.inj hvalue).symm, hworld.symm⟩

/-- Printing changes no file. -/
theorem print_ok {line : String} {x : Unit} {w w' : World}
    (h : (print line : Action ε Unit).runIn w = (.ok x, w')) : w'.tree = w.tree := by
  rw [← (Prod.mk.inj h).2]

theorem map_eq_bind (f : α → β) (a : Action ε α) : f <$> a = a >>= fun x => pure (f x) := rfl

@[simp] theorem runIn_tree (w : World) : (tree : Action ε FileTree).runIn w = (.ok w.tree, w) := rfl

@[simp] theorem runIn_printAll (lines : List String) (w : World) :
    (printAll lines : Action ε Unit).runIn w = (.ok (), { w with printed := w.printed ++ lines }) :=
  rfl

theorem runIn_makeDirs (refused : ε) (path : String) (w : World) :
    (makeDirs refused path).runIn w
      = (if (w.tree.makeDirs path).1 then .ok () else .error refused,
          { w with tree := (w.tree.makeDirs path).2 }) := rfl

theorem runIn_change (refused : ε) (f : FileTree → Option FileTree) (w : World) :
    (change refused f).runIn w = match f w.tree with
      | some tree => (.ok (), { w with tree := tree })
      | none => (.error refused, w) := rfl

/-- A change that was not refused gives the files afterwards. -/
theorem change_ok {refused : ε} {f : FileTree → Option FileTree} {x : Unit} {w w' : World}
    (h : (change refused f).runIn w = (.ok x, w')) : f w.tree = some w'.tree := by
  rw [runIn_change] at h
  split at h
  next tree htree => rw [htree, ← (Prod.mk.inj h).2]
  next => exact absurd (Prod.mk.inj h).1 (by simp)

/-- Failures in other words, and the same world. -/
theorem runIn_mapError (f : ε → ε') (a : Action ε α) (w : World) :
    (a.mapError f).runIn w = ((a.runIn w).1.mapError f, (a.runIn w).2) := by
  show (match a.runIn w with
    | (Except.ok x, w) => (Except.ok x, w)
    | (Except.error e, w) => (Except.error (f e), w)) = _
  rcases a.runIn w with ⟨e | x, v⟩ <;> rfl

@[simp] theorem mapError_ofExcept_ok (f : ε → ε') (a : α) :
    (ofExcept (.ok a) : Action ε α).mapError f = pure a := rfl

/-- What follows a failure is not done. -/
theorem runIn_bind_ofExcept_error (f : ε → ε') (e : ε) (k : α → Action ε' β) (w : World) :
    ((.mapError f (.ofExcept (.error e)) : Action ε' α) >>= k).runIn w = (.error (f e), w) := rfl

/-- An action succeeds in other words exactly when it does. -/
theorem mapError_ok {f : ε → ε'} {a : Action ε α} {w w' : World} {x : α}
    (h : (a.mapError f).runIn w = (.ok x, w')) : a.runIn w = (.ok x, w') := by
  rw [runIn_mapError] at h
  rcases ha : a.runIn w with ⟨e | y, v⟩
  · rw [ha] at h
    cases h
  · rw [ha] at h
    cases h
    rfl

/-- An end that is no failure has a value. -/
theorem exists_ok {out : Except ε α × World} (h : out.1.isOk = true) :
    ∃ x, out = (.ok x, out.2) := by
  obtain ⟨e | x, w⟩ := out
  · exact absurd h (by simp [Except.isOk, Except.toBool])
  · exact ⟨x, rfl⟩

/-! ## §2. Relations between the worlds before and after. -/

/-- The worlds before and after an action are related, given whether it
succeeded. -/
def Satisfies (R : Bool → World → World → Prop) (a : Action ε α) : Prop :=
  ∀ w, R (a.runIn w).1.isOk w (a.runIn w).2

theorem Satisfies.of_ok {R : Bool → World → World → Prop} {a : Action ε α} {w w' : World} {x : α}
    (h : Satisfies R a) (hrun : a.runIn w = (.ok x, w')) : R true w w' := by
  have hw := h w
  rw [hrun] at hw
  exact hw

/-- A relation that holds across any number of actions if it holds across each
of them. -/
structure Composable (R : Bool → World → World → Prop) : Prop where
  /-- Nothing may happen, whatever comes of it. -/
  refl : ∀ ok w, R ok w w
  /-- After a success something else may happen. -/
  trans : ∀ {ok u v w}, R true u v → R ok v w → R ok u w

variable {R : Bool → World → World → Prop}

theorem Satisfies.pure (hR : Composable R) (a : α) : Satisfies R (pure a : Action ε α) :=
  fun w => hR.refl _ w

theorem Satisfies.ofExcept (hR : Composable R) (x : Except ε α) :
    Satisfies R (ofExcept x : Action ε α) := by
  intro w
  cases x with
  | error e => exact hR.refl _ w
  | ok a => exact hR.refl _ w

/-- Across two actions one after the other holds what follows from what holds
across each. -/
theorem Satisfies.seq {R S T : Bool → World → World → Prop} {a : Action ε α} {f : α → Action ε β}
    (ha : Satisfies R a) (hf : ∀ x, Satisfies S (f x))
    (herror : ∀ {u v}, R false u v → T false u v)
    (hok : ∀ {ok u v w}, R true u v → S ok v w → T ok u w) : Satisfies T (a >>= f) := by
  intro w
  have h := ha w
  rcases hw : a.runIn w with ⟨e | x, v⟩
  · rw [runIn_bind_of_error hw]
    rw [hw] at h
    exact herror h
  · rw [runIn_bind_of_ok hw]
    rw [hw] at h
    exact hok h (hf x v)

theorem Satisfies.bind (hR : Composable R) {a : Action ε α} {f : α → Action ε β}
    (ha : Satisfies R a) (hf : ∀ x, Satisfies R (f x)) : Satisfies R (a >>= f) :=
  ha.seq hf id hR.trans

theorem Satisfies.mapError {a : Action ε α} (f : ε → ε') (ha : Satisfies R a) :
    Satisfies R (a.mapError f) := by
  intro w
  rw [runIn_mapError]
  have h := ha w
  rcases hw : a.runIn w with ⟨e | x, v⟩
  · rw [hw] at h
    exact h
  · rw [hw] at h
    exact h

/-! ## §3. Requests in the order of a plan. -/

/-- What the requests of an action have to do with a plan: `made` are those
that it made and `flags` say which of them arrived.  A success made the whole
plan and all of it arrived; a failure made the beginning of the plan, and all
but the last of it arrived. -/
structure Progress (plan : List String) (ok : Bool) (made : List String) (flags : List Bool) :
    Prop where
  /-- Nothing but the plan is requested. -/
  isPrefix : made <+: plan
  /-- A success requested all of it. -/
  whole : ok = true → made = plan
  /-- Each request has a flag. -/
  length_flags : flags.length = made.length
  /-- After a request that did not arrive there is none. -/
  dropLast_flags : ∀ b ∈ flags.dropLast, b = true
  /-- In a success all of them arrived. -/
  all_flags : ok = true → ∀ b ∈ flags, b = true

/-- The action requests what the plan says, in order, up to the first request
that fails. -/
def Follows (plan : List String) (a : Action ε α) : Prop :=
  ∀ w, ∃ made flags, (a.runIn w).2.requests = w.requests ++ made
    ∧ (a.runIn w).2.arrived = w.arrived ++ flags
    ∧ Progress plan (a.runIn w).1.isOk made flags

/-- Doing nothing is progress of a failure in any plan. -/
theorem Progress.nothing (plan : List String) : Progress plan false [] [] :=
  ⟨List.nil_prefix, by simp, rfl, by simp, by simp⟩

/-- Doing nothing is progress in the empty plan. -/
theorem Progress.empty (ok : Bool) : Progress [] ok [] [] :=
  ⟨List.nil_prefix, by simp, rfl, by simp, by simp⟩

/-- A failure in a plan is one in every plan that begins with it. -/
theorem Progress.of_error {p : List String} (q : List String) {made : List String}
    {flags : List Bool} (h : Progress p false made flags) : Progress (p ++ q) false made flags :=
  ⟨h.isPrefix.trans (List.prefix_append p q), by simp, h.length_flags, h.dropLast_flags, by simp⟩

/-- Progress in a plan after another plan is done. -/
theorem Progress.append {p q made : List String} {flags more : List Bool} {ok : Bool}
    (hp : Progress p true p flags) (hq : Progress q ok made more) :
    Progress (p ++ q) ok (p ++ made) (flags ++ more) where
  isPrefix := (List.prefix_append_right_inj p).2 hq.isPrefix
  whole h := by rw [hq.whole h]
  length_flags := by
    rw [List.length_append, List.length_append, hp.length_flags, hq.length_flags]
  dropLast_flags b hb := by
    cases more with
    -- nothing was requested in the second plan, so the last request is the first plan's
    | nil =>
        rw [List.append_nil] at hb
        exact hp.dropLast_flags b hb
    | cons m ms =>
        rw [List.dropLast_append_of_ne_nil (by simp), List.mem_append] at hb
        rcases hb with hb | hb
        · exact hp.all_flags rfl b hb
        · exact hq.dropLast_flags b hb
  all_flags h b hb := by
    rcases List.mem_append.1 hb with hb | hb
    · exact hp.all_flags rfl b hb
    · exact hq.all_flags h b hb

/-- An action that requests nothing. -/
theorem Follows.of_quiet {a : Action ε α}
    (h : Satisfies (fun _ w w' => w'.requests = w.requests ∧ w'.arrived = w.arrived) a) :
    Follows [] a := by
  intro w
  refine ⟨[], [], ?_, ?_, .empty _⟩
  · rw [(h w).1, List.append_nil]
  · rw [(h w).2, List.append_nil]

/-- A plan, and then another. -/
theorem Follows.bind {p q : List String} {a : Action ε α} {f : α → Action ε β}
    (ha : Follows p a) (hf : ∀ x, Follows q (f x)) : Follows (p ++ q) (a >>= f) := by
  intro w
  obtain ⟨made, flags, hreq, harr, hprog⟩ := ha w
  rcases hw : a.runIn w with ⟨e | x, v⟩
  -- a failure made the beginning of the first plan, which is one of both
  · rw [runIn_bind_of_error hw]
    rw [hw] at hreq harr hprog
    exact ⟨made, flags, hreq, harr, hprog.of_error q⟩
  · rw [runIn_bind_of_ok hw]
    rw [hw] at hreq harr hprog
    obtain ⟨more, flags', hreq', harr', hprog'⟩ := hf x v
    -- a success made all requests of the first plan, so the second goes on where it ends
    obtain rfl : made = p := hprog.whole rfl
    refine ⟨made ++ more, flags ++ flags', ?_, ?_, hprog.append hprog'⟩
    · rw [hreq', hreq, List.append_assoc]
    · rw [harr', harr, List.append_assoc]

theorem Follows.mapError {p : List String} {a : Action ε α} (f : ε → ε') (ha : Follows p a) :
    Follows p (a.mapError f) := by
  intro w
  rw [runIn_mapError]
  obtain ⟨made, flags, hreq, harr, hprog⟩ := ha w
  refine ⟨made, flags, hreq, harr, ?_⟩
  rcases hw : (a.runIn w).1 with e | x
  · rw [hw] at hprog
    exact hprog
  · rw [hw] at hprog
    exact hprog

theorem Follows.map {p : List String} {a : Action ε α} (f : α → β) (ha : Follows p a) :
    Follows p (f <$> a) := by
  rw [map_eq_bind, ← List.append_nil p]
  exact ha.bind fun x => .of_quiet fun w => ⟨rfl, rfl⟩

end Action

end ClusterBoot
