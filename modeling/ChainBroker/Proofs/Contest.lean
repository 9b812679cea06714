import ChainBroker.Proofs.Interleaving

/-!
# Contests for a name

Several dialogues try to make something under one name. Each of them asks for the name, and goes on
to finish what it makes only if the name is given to it.

1. `Attempted` is the course of one attempt, and `Attempted.split` says what every exchange in it
   comes after and before.
2. A `Contest` is a world that does not give a name twice. Whatever goes wrong, at most one of the
   attempts gets it (`Contest.Settled`, kept by every turn).
3. A `Making` is a world that lets the one who has got the name finish. As long as nothing goes
   wrong, one of the attempts does (`Making.exists_winner`).
-/

namespace ChainBroker

open Dialogue

variable {I : Interface} {ε α φ : Type}

/-! ## The course of one attempt -/

/-- What an exchange means for an attempt to make something under a name. -/
inductive Role where
  /-- Nothing. -/
  | other
  /-- The name is refused. -/
  | rejected
  /-- The name is given. -/
  | accepted
  /-- What is made under the name is finished. -/
  | completed
  /-- It cannot be finished. -/
  | incomplete

/-- What there is to finish is finished, or it cannot be. -/
def Role.Finishes : Role → Prop
  | .completed | .incomplete => True
  | .other | .rejected | .accepted => False

/-- How the last exchange of an attempt with the name is told from the result. -/
def Role.ofResult : Except ε α → Role
  | .ok _ => .completed
  | .error _ => .incomplete

/-- How the answer to the one who asks for the name is told from the result. -/
def Role.ofName : Except ε α → Role
  | .ok _ => .accepted
  | .error _ => .rejected

theorem Role.finishes_ofResult (r : Except ε α) : (Role.ofResult r).Finishes := by
  cases r <;> trivial

theorem Role.ofResult_ne {r : Except ε α} {role : Role} (h : ¬ role.Finishes) :
    Role.ofResult r ≠ role := by
  rintro rfl
  exact h (finishes_ofResult r)

theorem Role.ofName_ne_other {r : Except ε α} : Role.ofName r ≠ .other := by
  cases r <;> exact Role.noConfusion

theorem Role.not_finishes_ofName {r : Except ε α} : ¬ (Role.ofName r).Finishes := by
  cases r <;> exact id

variable {role : Exchange I → Role}

/-- What is said in an attempt, and what it ends with. -/
inductive Attempted (role : Exchange I → Role) : List (Exchange I) → Except ε α → Prop where
  /-- It ends before the name is asked for. -/
  | early (e : ε) : Attempted role [] (.error e)
  /-- Something else comes first. -/
  | other {x : Exchange I} {log : List (Exchange I)} {r : Except ε α} (hx : role x = .other)
      (rest : Attempted role log r) : Attempted role (x :: log) r
  /-- The name is refused. -/
  | rejected {x : Exchange I} (hx : role x = .rejected) (e : ε) : Attempted role [x] (.error e)
  /-- The name is given, and what is made under it is finished if that can be done. -/
  | accepted {x y : Exchange I} {r : Except ε α} (hx : role x = .accepted)
      (hy : role y = .ofResult r) : Attempted role [x, y] r

namespace Attempted

variable {front back log : List (Exchange I)} {x : Exchange I} {r : Except ε α}

theorem append (h : ∀ x ∈ front, role x = .other) (rest : Attempted role log r) :
    Attempted role (front ++ log) r := by
  induction front with
  | nil => exact rest
  | cons x front ih =>
    obtain ⟨hx, hfront⟩ := List.forall_mem_cons.mp h
    exact .other hx (ih hfront)

theorem of_others (h : ∀ x ∈ log, role x = .other) (e : ε) :
    Attempted role log (.error e : Except ε α) := by
  rw [← List.append_nil log]
  exact append h (.early e)

/-- An exchange and what stands before and after it. -/
theorem split (h : Attempted role (front ++ x :: back) r) :
    role x = .other ∨
      (role x = .rejected ∧ back = [] ∧ ∃ e, r = .error e) ∨
      (role x = .accepted ∧ ∃ y, back = [y] ∧ role y = .ofResult r) ∨
      (role x = .ofResult r ∧ back = [] ∧ ∃ before y, front = before ++ [y] ∧
        role y = .accepted) := by
  -- on the course, which does not show where the exchange stands
  generalize he : front ++ x :: back = log at h
  induction h generalizing front with
  | early e => simp at he
  | other hy rest ih =>
    cases front with
    | nil =>
      cases he
      exact .inl hy
    | cons y front =>
      cases he
      -- something else in front matters only to the last case, which tells what stands before
      rcases ih rfl with h | h | h | ⟨hx, hback, before, z, rfl, hz⟩
      · exact .inl h
      · exact .inr (.inl h)
      · exact .inr (.inr (.inl h))
      · exact .inr (.inr (.inr ⟨hx, hback, _ :: before, z, rfl, hz⟩))
  | rejected hy e =>
    cases front with
    | nil =>
      cases he
      exact .inr (.inl ⟨hy, rfl, e, rfl⟩)
    | cons y front => simp at he
  | accepted hy hz =>
    cases front with
    | nil =>
      cases he
      exact .inr (.inr (.inl ⟨hy, _, rfl, hz⟩))
    | cons y front =>
      cases front with
      | nil =>
        cases he
        exact .inr (.inr (.inr ⟨hz, rfl, [], _, rfl, hy⟩))
      | cons z front => simp at he

/-- Without the name there is no success. -/
theorem exists_accepted {a : α} (h : Attempted role log (.ok a : Except ε α)) :
    ∃ x ∈ log, role x = .accepted := by
  generalize hr : (Except.ok a : Except ε α) = r at h
  induction h with
  | early | rejected => cases hr
  | other _ rest ih =>
    obtain ⟨x, hx, accepted⟩ := ih hr
    exact ⟨x, List.mem_cons_of_mem _ hx, accepted⟩
  | accepted hx => exact ⟨_, List.mem_cons_self, hx⟩

end Attempted

/-- Whatever is answered, the dialogue is an attempt. -/
def Orderly (role : Exchange I → Role) (d : Dialogue I (Except ε α)) : Prop :=
  ∀ log r, Transcript d log r → Attempted role log r

/-! ## Attempts that have come to some point -/

section

variable {d d' : Dialogue I (Except ε α)} {log : List (Exchange I)} {x : Exchange I}
  {r : Except ε α}

/-- A party that keeps to the order has attempted what it has said. -/
theorem Orderly.attempted (h : Orderly role d) (said : Said d log (.done r)) :
    Attempted role log r :=
  h log r said.transcript_of_done

/-- One who has got the name goes on to finish. -/
theorem Orderly.finishes_of_accepted (h : Orderly role d) (said : Said d log (.done r))
    (hx : x ∈ log) (accepted : role x = .accepted) : ∃ y ∈ log, role y = .ofResult r := by
  obtain ⟨front, back, rfl⟩ := List.append_of_mem hx
  rcases (h.attempted said).split with h | ⟨h, -⟩ | ⟨-, y, rfl, hy⟩ | ⟨h, -⟩
  · cases accepted.symm.trans h
  · cases accepted.symm.trans h
  · exact ⟨y, by simp, hy⟩
  · exact absurd (h.symm.trans accepted) (Role.ofResult_ne id)

variable [∀ q, Nonempty (I.Answer q)]

/-- What has been said is the beginning of a course. -/
theorem Orderly.exists_course (h : Orderly role d) (said : Said d log d') (hx : x ∈ log) :
    ∃ front back rest r, log = front ++ x :: back ∧ Transcript d' rest r ∧
      Attempted role (front ++ x :: (back ++ rest)) r := by
  obtain ⟨rest, r, ht⟩ := exists_transcript d'
  obtain ⟨front, back, rfl⟩ := List.append_of_mem hx
  have course := h _ r (said.transcript ht)
  rw [List.append_assoc, List.cons_append] at course
  exact ⟨front, back, rest, r, rfl, ht, course⟩

/-- After a refusal nothing is said. -/
theorem Orderly.done_of_rejected (h : Orderly role d) (said : Said d log d') (hx : x ∈ log)
    (rejected : role x = .rejected) :
    (∃ e, d' = .done (.error e)) ∧ ∃ front, log = front ++ [x] := by
  obtain ⟨front, back, rest, r, rfl, ht, course⟩ := h.exists_course said hx
  -- a refusal is the last exchange, so nothing has been said after it and nothing will be
  rcases course.split with h | ⟨-, hback, e, rfl⟩ | ⟨h, -⟩ | ⟨h, -⟩
  · cases rejected.symm.trans h
  · obtain ⟨rfl, rfl⟩ := List.append_eq_nil_iff.mp hback
    cases ht
    exact ⟨⟨e, rfl⟩, front, rfl⟩
  · cases rejected.symm.trans h
  · exact absurd (h.symm.trans rejected) (Role.ofResult_ne id)

/-- Only one who has got the name finishes, and nothing is said afterwards. -/
theorem Orderly.done_of_finishes (h : Orderly role d) (said : Said d log d') (hx : x ∈ log)
    (finishes : (role x).Finishes) :
    (∃ r, d' = .done r ∧ role x = .ofResult r) ∧
      ∃ front y, log = front ++ [y, x] ∧ role y = .accepted := by
  obtain ⟨front, back, rest, r, rfl, ht, course⟩ := h.exists_course said hx
  rcases course.split with h | ⟨h, -⟩ | ⟨h, -⟩ | ⟨hresult, hback, before, y, rfl, hy⟩
  · rw [h] at finishes
    cases finishes
  · rw [h] at finishes
    cases finishes
  · rw [h] at finishes
    cases finishes
  · obtain ⟨rfl, rfl⟩ := List.append_eq_nil_iff.mp hback
    cases ht
    exact ⟨⟨r, rfl, hresult⟩, before, y, by simp, hy⟩

/-- One who asks to finish has got the name. -/
theorem Orderly.accepted_of_asks {q : I.Question} {next : I.Answer q → Dialogue I (Except ε α)}
    (h : Orderly role d) (said : Said d log (.ask q next)) {answer : I.Answer q}
    (finishes : (role ⟨q, answer⟩).Finishes) : ∃ y ∈ log, role y = .accepted := by
  -- with its answer the question is the last exchange, and the one before it gave the name
  have hlast : (⟨q, answer⟩ : Exchange I) ∈ log ++ [⟨q, answer⟩] := by simp
  obtain ⟨-, front, y, hlog, hy⟩ := h.done_of_finishes (said.concat answer) hlast finishes
  have hsplit : log ++ [⟨q, answer⟩] = (front ++ [y]) ++ [⟨q, answer⟩] := by
    rw [hlog, List.append_assoc]
    rfl
  rw [List.append_cancel_right hsplit]
  exact ⟨y, by simp, hy⟩

end

/-! ## Worlds that do not give a name twice -/

/-- What is said when a question is asked. -/
abbrev World.reply (w : World I) (chance : w.Chance) (q : I.Question) (s : w.State) : Exchange I :=
  ⟨q, (w.react chance q s).1⟩

theorem World.reply_eq {w : World I} {chance : w.Chance} {q : I.Question} {s s' : w.State}
    {answer : I.Answer q} (h : w.react chance q s = (answer, s')) :
    w.reply chance q s = ⟨q, answer⟩ ∧ (w.react chance q s).2 = s' := by
  unfold World.reply
  rw [h]
  exact ⟨rfl, rfl⟩

/-- A name is not given twice in a world where the questions with the property `P` are asked. -/
structure Contest (w : World I) (P : I.Question → Prop) (role : Exchange I → Role)
    (Taken : w.State → Prop) : Prop where
  /-- A name that is given has been free. -/
  free : ∀ {c q s}, P q → role (w.reply c q s) = .accepted → ¬ Taken s
  /-- A name that has been given is taken. -/
  taken : ∀ {c q s}, P q → role (w.reply c q s) = .accepted → Taken (w.react c q s).2
  /-- It stays taken. -/
  keeps : ∀ {c q s}, P q → Taken s → Taken (w.react c q s).2

variable {w : World I} {P : I.Question → Prop} {Taken : w.State → Prop}
  {fail : w.Chance → φ → (q : I.Question) → I.Answer q}

/-- A failure does not give the name, although it may take it. -/
theorem Contest.faulty (h : Contest w P role Taken)
    (fails : ∀ c cause q, role ⟨q, fail c cause q⟩ ≠ .accepted) :
    Contest (w.faulty fail) P role Taken where
  free := by
    rintro ⟨c, mishap⟩ q s hq accepted
    cases mishap with
    | none => exact h.free hq accepted
    | some mishap => exact absurd accepted (fails c mishap.cause q)
  taken := by
    rintro ⟨c, mishap⟩ q s hq accepted
    cases mishap with
    | none => exact h.taken hq accepted
    | some mishap => exact absurd accepted (fails c mishap.cause q)
  keeps hq taken := World.faulty_keeps (P := Taken) (fun _ _ => h.keeps hq) _ _ taken

/-- What the scene of a contest is like at any time. -/
structure Contest.Settled {ι : Type} [DecidableEq ι] {w : World I} (P : I.Question → Prop)
    (role : Exchange I → Role) (Taken : w.State → Prop)
    (calls : ι → Dialogue I (Except ε α)) (c : Scene w fun _ : ι => Except ε α) : Prop where
  /-- The dialogues have come to where they are by what has been said. -/
  said : ∀ k, Said (calls k) (c.said k) (c.calls k)
  /-- No other questions will be asked. -/
  only : ∀ k, (c.calls k).Only P
  /-- A name that has been given is taken. -/
  taken : ∀ {k x}, x ∈ c.said k → role x = .accepted → Taken c.state
  /-- It has been given to one dialogue only. -/
  unique : ∀ {k l x y}, x ∈ c.said k → role x = .accepted → y ∈ c.said l → role y = .accepted →
    k = l

namespace Contest

variable {ι : Type} [DecidableEq ι] {calls : ι → Dialogue I (Except ε α)}

/-- What is settled stays settled with every turn. -/
theorem Settled.turn (h : Contest w P role Taken) {c : Scene w fun _ : ι => Except ε α}
    (hc : Settled P role Taken calls c) (k : ι) (chance : w.Chance) :
    Settled P role Taken calls (c.turn k chance) := by
  cases hk : c.calls k with
  | done r => rwa [Scene.turn_of_done hk]
  | ask q next =>
    have hall := hc.only k
    rw [hk] at hall
    obtain ⟨hq, hnext⟩ := hall
    have hstate : (c.turn k chance).state = (w.react chance q c.state).2 := by
      rw [Scene.turn_of_ask hk]
    -- whoever gets the name in this turn is the first one
    have first : ∀ {l x}, x ∈ c.said l → role x = .accepted →
        role (w.reply chance q c.state) ≠ .accepted :=
      fun hx accepted now => h.free hq now (hc.taken hx accepted)
    refine ⟨Scene.said_turn hc.said k chance, fun l => ?_, fun {l x} hx accepted => ?_,
      fun {l m x y} hx xaccepted hy yaccepted => ?_⟩
    · by_cases hl : l = k
      · subst hl
        rw [Scene.calls_turn_of_ask hk]
        exact hnext _
      · rw [Scene.calls_turn_of_ne hl]
        exact hc.only l
    · rw [hstate]
      rcases (Scene.mem_said_turn_iff hk).mp hx with before | ⟨-, rfl⟩
      · exact h.keeps hq (hc.taken before accepted)
      · exact h.taken hq accepted
    · rcases (Scene.mem_said_turn_iff hk).mp hx with xbefore | ⟨hl, hx⟩
      · rcases (Scene.mem_said_turn_iff hk).mp hy with ybefore | ⟨-, rfl⟩
        · exact hc.unique xbefore xaccepted ybefore yaccepted
        · exact absurd yaccepted (first xbefore xaccepted)
      · rcases (Scene.mem_said_turn_iff hk).mp hy with ybefore | ⟨hm, -⟩
        · rw [hx] at xaccepted
          exact absurd xaccepted (first ybefore yaccepted)
        · exact hl.trans hm.symm

/-- Before the first turn all is settled. -/
theorem settled_start (only : ∀ k, (calls k).Only P) (s : w.State) :
    Settled P role Taken calls (Scene.start s calls) where
  said k := .nil (calls k)
  only := only
  taken hx := nomatch hx
  unique hx := nomatch hx

/-- However turns are taken, the name is given to one dialogue only. -/
theorem settled_run (h : Contest w P role Taken) (only : ∀ k, (calls k).Only P) (s : w.State)
    (schedule : List (ι × w.Chance)) :
    Settled P role Taken calls ((Scene.start s calls).run schedule) :=
  Scene.run_keeps (fun _ t _ hc => hc.turn h t.1 t.2) (settled_start only s)

/-- At most one attempt succeeds. -/
theorem Settled.unique_of_done {c : Scene w fun _ : ι => Except ε α}
    (hc : Settled P role Taken calls c) (orderly : ∀ k, Orderly role (calls k)) {k l : ι} {a b : α}
    (hk : c.calls k = .done (.ok a)) (hl : c.calls l = .done (.ok b)) : k = l := by
  have course : ∀ {m r}, c.calls m = .done r → Attempted role (c.said m) r := by
    intro m r hm
    refine (orderly m).attempted ?_
    rw [← hm]
    exact hc.said m
  obtain ⟨x, hx, xaccepted⟩ := (course hk).exists_accepted
  obtain ⟨y, hy, yaccepted⟩ := (course hl).exists_accepted
  exact hc.unique hx xaccepted hy yaccepted

end Contest

/-! ## Worlds in which things get finished -/

/-- In a contest where `initial` is the state at the beginning, the one who gets the name can
finish. `Made x` are the states after the name has been given in `x`, and `Complete x y` those
after what has been made is finished in `y`. -/
structure Making (w : World I) (P : I.Question → Prop) (role : Exchange I → Role)
    (Taken : w.State → Prop) (initial : w.State) (Made : Exchange I → w.State → Prop)
    (Complete : Exchange I → Exchange I → w.State → Prop) : Prop
    extends Contest w P role Taken where
  /-- The name is free at the beginning. -/
  untaken : ¬ Taken initial
  /-- Nothing else changes anything. -/
  other : ∀ {c q s}, P q → role (w.reply c q s) = .other → (w.react c q s).2 = s
  /-- The name is refused only if it is taken, and a refusal changes nothing. -/
  rejected : ∀ {c q s}, P q → role (w.reply c q s) = .rejected →
    Taken s ∧ (w.react c q s).2 = s
  /-- Who gets the name makes something. -/
  made : ∀ {c q}, P q → role (w.reply c q initial) = .accepted →
    Made (w.reply c q initial) (w.react c q initial).2
  /-- What has been made can be finished. -/
  finish : ∀ {c q s x}, P q → Made x s → (role (w.reply c q s)).Finishes →
    role (w.reply c q s) = .completed ∧ Complete x (w.reply c q s) (w.react c q s).2

namespace Making

variable {ι : Type} [DecidableEq ι] {calls : ι → Dialogue I (Except ε α)} {initial : w.State}
  {Made : Exchange I → w.State → Prop} {Complete : Exchange I → Exchange I → w.State → Prop}
  {c c' : Scene (w.faulty fail) fun _ : ι => Except ε α} {k : ι} {e : Exchange I}

/-- How far the making has come. -/
inductive Stage (role : Exchange I → Role) (initial : w.State)
    (Made : Exchange I → w.State → Prop) (Complete : Exchange I → Exchange I → w.State → Prop)
    (c : Scene (w.faulty fail) fun _ : ι => Except ε α) : Prop where
  /-- Nobody has asked for the name. -/
  | free (state : c.state = initial) (others : ∀ l, ∀ x ∈ c.said l, role x = .other)
  /-- Somebody has got it. -/
  | made {l : ι} {x : Exchange I} (hx : x ∈ c.said l) (accepted : role x = .accepted)
    (state : Made x c.state) (unfinished : ∀ m, ∀ y ∈ c.said m, ¬ (role y).Finishes)
  /-- Somebody has finished. -/
  | complete {l : ι} {x y : Exchange I} (hx : x ∈ c.said l) (accepted : role x = .accepted)
    (hy : y ∈ c.said l) (completed : role y = .completed) (state : Complete x y c.state)

/-- What happens in a turn without a mishap in which a dialogue says something. -/
structure Move (role : Exchange I → Role) (Taken : w.State → Prop) (initial : w.State)
    (Made : Exchange I → w.State → Prop) (Complete : Exchange I → Exchange I → w.State → Prop)
    (c c' : Scene (w.faulty fail) fun _ : ι => Except ε α) (k : ι) (e : Exchange I) : Prop where
  /-- This is said, and nothing else. -/
  said : ∀ {l x}, x ∈ c'.said l ↔ x ∈ c.said l ∨ (l = k ∧ x = e)
  /-- The name is given if it is free. -/
  free : role e = .accepted → ¬ Taken c.state
  /-- It is refused if it is taken. -/
  taken : role e = .rejected → Taken c.state
  /-- Nothing else changes anything. -/
  same : role e = .other ∨ role e = .rejected → c'.state = c.state
  /-- Who gets the name makes something. -/
  made : role e = .accepted → c.state = initial → Made e c'.state
  /-- Only who has got the name finishes. -/
  earned : (role e).Finishes → ∃ x ∈ c.said k, role x = .accepted
  /-- Who has finished does not do it again. -/
  once : (role e).Finishes → ∀ x ∈ c.said k, ¬ (role x).Finishes
  /-- What has been made is finished. -/
  finish : (role e).Finishes → ∀ x, Made x c.state → role e = .completed ∧ Complete x e c'.state

/-- When the name has been given, nothing changes but by finishing. -/
theorem Move.same_of_taken (move : Move role Taken initial Made Complete c c' k e)
    (taken : Taken c.state) (unfinished : ¬ (role e).Finishes) : c'.state = c.state := by
  cases hrole : role e with
  | other => exact move.same (.inl hrole)
  | rejected => exact move.same (.inr hrole)
  | accepted => exact absurd taken (move.free hrole)
  | completed | incomplete => exact absurd (hrole ▸ trivial) unfinished

/-- As long as the name is free, a turn leaves it so or makes what it stands for. -/
theorem Stage.of_free (h : Making w P role Taken initial Made Complete)
    (move : Move role Taken initial Made Complete c c' k e) (state : c.state = initial)
    (others : ∀ l, ∀ x ∈ c.said l, role x = .other) : Stage role initial Made Complete c' := by
  have unfinished : ¬ (role e).Finishes := by
    intro finishes
    obtain ⟨x, hx, accepted⟩ := move.earned finishes
    cases (others k x hx).symm.trans accepted
  cases hrole : role e with
  | other =>
    refine .free ((move.same (.inl hrole)).trans state) fun l x hx => ?_
    rcases move.said.mp hx with hx | ⟨-, rfl⟩
    · exact others l x hx
    · exact hrole
  -- nobody can be refused a name that nobody has
  | rejected => exact absurd (state ▸ move.taken hrole) h.untaken
  | accepted =>
    refine .made (move.said.mpr (.inr ⟨rfl, rfl⟩)) hrole (move.made hrole state) ?_
    intro l y hy finished
    rcases move.said.mp hy with hy | ⟨-, rfl⟩
    · rw [others l y hy] at finished
      cases finished
    · exact unfinished finished
  | completed | incomplete => exact absurd (hrole ▸ trivial) unfinished

/-- Once it is made, a turn leaves it so or completes it. -/
theorem Stage.of_made (hc : Contest.Settled (w := w.faulty fail) P role Taken calls c)
    (move : Move role Taken initial Made Complete c c' k e) {l : ι} {x : Exchange I}
    (hx : x ∈ c.said l) (accepted : role x = .accepted) (state : Made x c.state)
    (unfinished : ∀ m, ∀ y ∈ c.said m, ¬ (role y).Finishes) :
    Stage role initial Made Complete c' := by
  have hx' : x ∈ c'.said l := move.said.mpr (.inl hx)
  by_cases finishes : (role e).Finishes
  · -- the one who finishes has got the name, which has been given only once
    obtain ⟨y, hy, yaccepted⟩ := move.earned finishes
    have hl : l = k := hc.unique hx accepted hy yaccepted
    obtain ⟨completed, complete⟩ := move.finish finishes x state
    exact .complete hx' accepted (move.said.mpr (.inr ⟨hl, rfl⟩)) completed complete
  · have same := move.same_of_taken (hc.taken hx accepted) finishes
    refine .made hx' accepted (same ▸ state) fun m y hy finished => ?_
    rcases move.said.mp hy with hy | ⟨-, rfl⟩
    · exact unfinished m y hy finished
    · exact finishes finished

/-- Once it is complete, it stays so. -/
theorem Stage.of_complete (hc : Contest.Settled (w := w.faulty fail) P role Taken calls c)
    (move : Move role Taken initial Made Complete c c' k e) {l : ι} {x y : Exchange I}
    (hx : x ∈ c.said l) (accepted : role x = .accepted) (hy : y ∈ c.said l)
    (completed : role y = .completed) (state : Complete x y c.state) :
    Stage role initial Made Complete c' := by
  have unfinished : ¬ (role e).Finishes := by
    intro finishes
    obtain ⟨z, hz, zaccepted⟩ := move.earned finishes
    have hl : l = k := hc.unique hx accepted hz zaccepted
    exact move.once finishes y (hl ▸ hy) (completed ▸ trivial)
  have same := move.same_of_taken (hc.taken hx accepted) unfinished
  exact .complete (move.said.mpr (.inl hx)) accepted (move.said.mpr (.inl hy)) completed
    (same ▸ state)

variable [∀ q, Nonempty (I.Answer q)]

theorem exists_move (h : Making w P role Taken initial Made Complete)
    (orderly : ∀ k, Orderly role (calls k))
    (hc : Contest.Settled (w := w.faulty fail) P role Taken calls c) {q : I.Question}
    {next : I.Answer q → Dialogue I (Except ε α)} (hk : c.calls k = .ask q next)
    {chance : (w.faulty fail).Chance} (lucky : chance.2 = none) :
    ∃ e, Move role Taken initial Made Complete c (c.turn k chance) k e := by
  have hall := hc.only k
  rw [hk] at hall
  have hq : P q := hall.1
  have hsaid : Said (calls k) (c.said k) (.ask q next) := hk ▸ hc.said k
  have hreact := World.faulty_react_of_none lucky q c.state
  have hstate : (c.turn k chance).state = (w.react chance.1 q c.state).2 := by
    rw [Scene.turn_of_ask hk, hreact]
  refine ⟨w.reply chance.1 q c.state, ?_, h.free hq, fun hrole => (h.rejected hq hrole).1, ?_, ?_,
    (orderly k).accepted_of_asks hsaid, ?_, fun finishes x hx => ?_⟩
  · intro l x
    rw [Scene.mem_said_turn_iff hk, hreact]
  · rw [hstate]
    rintro (hrole | hrole)
    · exact h.other hq hrole
    · exact (h.rejected hq hrole).2
  · intro hrole state
    rw [hstate]
    rw [state] at hrole ⊢
    exact h.made hq hrole
  · intro _ y hy finished
    obtain ⟨⟨r, hdone, -⟩, -⟩ := (orderly k).done_of_finishes hsaid hy finished
    cases hdone
  · rw [hstate]
    exact h.finish hq hx finishes

theorem Stage.turn (h : Making w P role Taken initial Made Complete)
    (orderly : ∀ k, Orderly role (calls k))
    (hc : Contest.Settled (w := w.faulty fail) P role Taken calls c)
    (stage : Stage role initial Made Complete c) {chance : (w.faulty fail).Chance}
    (lucky : chance.2 = none) : Stage role initial Made Complete (c.turn k chance) := by
  cases hk : c.calls k with
  | done r => rwa [Scene.turn_of_done hk]
  | ask q next =>
    obtain ⟨e, move⟩ := h.exists_move orderly hc hk lucky
    cases stage with
    | free state others => exact .of_free h move state others
    | made hx accepted state unfinished => exact .of_made hc move hx accepted state unfinished
    | complete hx accepted hy completed state =>
      exact .of_complete hc move hx accepted hy completed state

/-- So whatever the order of the turns is, a run without faults is at one of the three stages. -/
theorem stage_run (h : Making w P role Taken initial Made Complete)
    (fails : ∀ c cause q, role ⟨q, fail c cause q⟩ ≠ .accepted)
    (only : ∀ k, (calls k).Only P) (orderly : ∀ k, Orderly role (calls k))
    {schedule : List (ι × (w.faulty fail).Chance)} (lucky : ∀ t ∈ schedule, t.2.2 = none) :
    Stage role initial Made Complete
      ((Scene.start (w := w.faulty fail) initial calls).run schedule) := by
  have contest := h.toContest.faulty fails
  refine (Scene.run_keeps (P := fun c : Scene (w.faulty fail) fun _ : ι => Except ε α =>
    Contest.Settled (w := w.faulty fail) P role Taken calls c ∧
      Stage role initial Made Complete c) ?_
    ⟨Contest.settled_start (w := w.faulty fail) only initial, ?_⟩).2
  · rintro c t ht ⟨hc, stage⟩
    exact ⟨hc.turn contest t.1 t.2, stage.turn h orderly hc (lucky t ht)⟩
  · exact .free rfl fun l x hx => absurd hx List.not_mem_nil

/-- Without mishaps one of the attempts succeeds, if each of them asks for the name whenever it gets
the answers of this world. -/
theorem exists_winner [Nonempty ι] (h : Making w P role Taken initial Made Complete)
    (fails : ∀ c cause q, role ⟨q, fail c cause q⟩ ≠ .accepted)
    (only : ∀ k, (calls k).Only P) (orderly : ∀ k, Orderly role (calls k))
    (persistent : ∀ k log r, Transcript (calls k) log r →
      (∀ x ∈ log, ∃ c s, x.2 = (w.react c x.1 s).1) → ∃ x ∈ log, role x ≠ .other)
    {schedule : List (ι × (w.faulty fail).Chance)} (lucky : ∀ t ∈ schedule, t.2.2 = none)
    (hc : c = (Scene.start (w := w.faulty fail) initial calls).run schedule) (ended : c.Ended) :
    ∃ k x y a, c.calls k = .done (.ok a) ∧ x ∈ c.said k ∧ y ∈ c.said k ∧ role x = .accepted ∧
      Complete x y c.state := by
  have said : ∀ k, Said (calls k) (c.said k) (c.calls k) := by
    rw [hc]
    exact Scene.said_run (w := w.faulty fail) initial calls schedule
  have stage : Stage role initial Made Complete c := hc ▸ h.stage_run fails only orderly lucky
  cases stage with
  -- a party that has ended has attempted the creation, so the name is not free
  | free state others =>
    obtain ⟨k⟩ := ‹Nonempty ι›
    obtain ⟨r, hr⟩ := ended k
    have ht := (hr ▸ said k : Said (calls k) (c.said k) (.done r)).transcript_of_done
    have answered : ∀ x ∈ c.said k, ∃ c s, x.2 = (w.react c x.1 s).1 := by
      intro x hx
      rw [hc] at hx
      obtain ⟨t, ht, s, hs⟩ := Scene.answered_run (w := w.faulty fail) initial calls hx
      rw [World.faulty_react_of_none (lucky t ht)] at hs
      exact ⟨_, s, hs⟩
    obtain ⟨x, hx, hrole⟩ := persistent k _ r ht answered
    exact absurd (others k x hx) hrole
  -- the party that was accepted has ended, so it has finished what it made
  | @made k x hx accepted state unfinished =>
    obtain ⟨r, hr⟩ := ended k
    obtain ⟨y, hy, hrole⟩ := (orderly k).finishes_of_accepted (hr ▸ said k) hx accepted
    exact absurd (hrole ▸ Role.finishes_ofResult r) (unfinished k y hy)
  | @complete k x y hx accepted hy completed state =>
    obtain ⟨⟨r, hdone, hrole⟩, -⟩ :=
      (orderly k).done_of_finishes (said k) hy (completed ▸ trivial)
    cases r with
    | ok a => exact ⟨k, x, y, a, hdone, hx, hy, accepted, state⟩
    | error e => cases completed.symm.trans hrole

end Making

end ChainBroker
