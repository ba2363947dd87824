import CommandShell.Proofs.Segment.Log
import CommandShell.Proofs.Segment.Sequencing
import Mathlib.Data.List.Induction

/-!
# Chains of statements

The tree of `s₀ ; s₁ & s₂ ...` has its operators one inside the other, the last one outermost.  It is
evaluated from left to right: each statement runs or is left out by the outcome of the last one that
ran, and a value is handed on exactly when another statement begins after it.

* `Segment.chain`   : the tree of statements with `;` and `&` between them;
* `Ran`, `latest?`  : a statement that ran, and the last one that did;
* `RunsChain`       : which statements of a chain run, and from which states;
* `transcript`      : the events of statements, with the values handed on between them;
* `eval_chain`      : a chain ends as the last of its statements that ran.
-/

namespace CommandShell

open Grammar Segment

/-- Statements with `;` or, where the flag is set, `&` before all but the first. -/
def Segment.chain (first : Segment) (links : List (Bool × Segment)) : Segment :=
  links.foldl (fun left link => .sequence left link.2 link.1) first

/-- A statement that ran. -/
structure Ran where
  /-- The state that it began with. -/
  before : State
  /-- How it ended. -/
  result : Except EvalError Outcome
  /-- The state behind it. -/
  after : State

/-- The run of a statement without input, whose output goes to the console. -/
def Segment.ran (ctx : Context) (t : Segment) (s : State) : Ran :=
  ⟨s, (t.eval ctx .absent false s).1, (t.eval ctx .absent false s).2⟩

namespace Ran

/-- The events of a statement that ran. -/
def events (r : Ran) : List Event := r.after.log.drop r.before.log.length

/-- What is handed on of a statement before the next one begins: its value, if there is one. -/
def handedOn (ctx : Context) (r : Ran) : List Event :=
  match r.result with
  | .ok o => if ctx.emits && !o.value.isAbsent then [.emitted o.value] else []
  | .error _ => []

/-- The state that the next statement begins with. -/
def next (ctx : Context) (r : Ran) : State := { r.after with log := r.after.log ++ r.handedOn ctx }

end Ran

/-- The last statement that ran, where each statement has an entry and those that are left out have an
empty one. -/
def latest? (runs : List (Option Ran)) : Option Ran := (runs.filterMap id).getLast?

/-- The events of statements that ran, with what is handed on between them. -/
def transcript (ctx : Context) : List Ran → List Event
  | [] => []
  | [r] => r.events
  | r :: rs => r.events ++ r.handedOn ctx ++ transcript ctx rs

/-- Which statements of a chain run from a state on: `runs` has one entry for each of them. -/
structure RunsChain (ctx : Context) (first : Segment) (links : List (Bool × Segment)) (s : State)
    (runs : List (Option Ran)) : Prop where
  entries : runs.length = links.length + 1
  /-- The first statement runs, from the state of the chain. -/
  begins : runs[0]? = some (some (first.ran ctx s))
  /-- After `;` a statement runs, and after `&` it does if the last one that ran has exit code zero;
  after an error none does. -/
  goesOn : ∀ i stop t r, links[i]? = some (stop, t) → latest? (runs.take (i + 1)) = some r →
    ((∃ r', runs[i + 1]? = some (some r')) ↔
      ∃ o, r.result = .ok o ∧ (stop = true → o.exitCode = 0))
  /-- It begins with the state behind the last one that ran, as soon as that one's value is handed
  on. -/
  continues : ∀ i stop t r r', links[i]? = some (stop, t) → latest? (runs.take (i + 1)) = some r →
    runs[i + 1]? = some (some r') → r' = t.ran ctx (r.next ctx)

/-! ## The last statement that ran -/

@[simp] theorem latest?_concat_none (runs : List (Option Ran)) :
    latest? (runs ++ [none]) = latest? runs := by
  simp [latest?]

@[simp] theorem latest?_concat_some (runs : List (Option Ran)) (r : Ran) :
    latest? (runs ++ [some r]) = some r := by
  simp [latest?]

theorem transcript_concat (ctx : Context) (r r' : Ran) : ∀ rs : List Ran,
    transcript ctx (rs ++ [r, r']) = transcript ctx (rs ++ [r]) ++ r.handedOn ctx ++ r'.events
  | [] => rfl
  | [q] => by simp [transcript]
  | q :: p :: rs => by
    have ih := transcript_concat ctx r r' (p :: rs)
    simp only [List.cons_append] at ih ⊢
    simp only [transcript, ih, List.append_assoc]

/-- What a statement adds to the log are its events. -/
theorem Segment.ran_log (ctx : Context) (t : Segment) (s : State) :
    (t.ran ctx s).after.log = s.log ++ (t.ran ctx s).events := by
  obtain ⟨new, hnew⟩ := eval_grows ctx t .absent false s
  simp only [Ran.events, ran, ← hnew, List.drop_left]

/-! ## One more statement -/

theorem chain_concat (first : Segment) (links : List (Bool × Segment)) (stop : Bool) (t : Segment) :
    chain first (links ++ [(stop, t)]) = .sequence (chain first links) t stop := by
  simp [chain]

/-- A link of a chain with one statement more is a link of the chain so far, where nothing changes, or
that of the new statement, which hangs on the last statement that ran. -/
theorem RunsChain.link_cases {ctx : Context} {first : Segment} {links : List (Bool × Segment)}
    {s : State} {runs : List (Option Ran)} {last : Ran} (h : RunsChain ctx first links s runs)
    (hlast : latest? runs = some last) {new link : Bool × Segment} {entry : Option Ran} {i : Nat}
    {r : Ran} (hlink : (links ++ [new])[i]? = some link)
    (hr : latest? ((runs ++ [entry]).take (i + 1)) = some r) :
    (links[i]? = some link ∧ latest? (runs.take (i + 1)) = some r ∧
        (runs ++ [entry])[i + 1]? = runs[i + 1]?) ∨
      (link = new ∧ r = last ∧ (runs ++ [entry])[i + 1]? = some entry) := by
  have hlen := h.entries
  have hi : i < links.length + 1 := by
    have := (List.getElem?_eq_some_iff.mp hlink).1
    simpa using this
  rw [List.take_append_of_le_length (by omega)] at hr
  by_cases hold : i < links.length
  · left
    rw [List.getElem?_append_left hold] at hlink
    exact ⟨hlink, hr, List.getElem?_append_left (by omega)⟩
  · right
    obtain rfl : i = links.length := by omega
    rw [List.take_of_length_le (by omega), hlast] at hr
    rw [List.getElem?_concat_length] at hlink
    refine ⟨(Option.some.inj hlink).symm, (Option.some.inj hr).symm, ?_⟩
    rw [← hlen, List.getElem?_concat_length]

/-- A statement more has an entry more, which hangs on the last statement that ran. -/
theorem RunsChain.concat {ctx : Context} {first : Segment} {links : List (Bool × Segment)} {s : State}
    {runs : List (Option Ran)} {last : Ran} (h : RunsChain ctx first links s runs)
    (hlast : latest? runs = some last) (stop : Bool) (t : Segment) (entry : Option Ran)
    (hgoes : entry.isSome = true ↔ ∃ o, last.result = .ok o ∧ (stop = true → o.exitCode = 0))
    (hentry : ∀ r, entry = some r → r = t.ran ctx (last.next ctx)) :
    RunsChain ctx first (links ++ [(stop, t)]) s (runs ++ [entry]) := by
  refine ⟨by simp [h.entries], ?_, ?_, ?_⟩
  · rw [List.getElem?_append_left (by rw [h.entries]; omega)]
    exact h.begins
  · intro i stop' t' r hl hr
    rcases h.link_cases hlast hl hr with ⟨hl, hr, hget⟩ | ⟨hl, rfl, hget⟩
    · rw [hget]
      exact h.goesOn i stop' t' r hl hr
    · cases hl
      rw [hget, ← hgoes, Option.isSome_iff_exists]
      simp
  · intro i stop' t' r r' hl hr hr'
    rcases h.link_cases hlast hl hr with ⟨hl, hr, hget⟩ | ⟨hl, rfl, hget⟩
    · rw [hget] at hr'
      exact h.continues i stop' t' r r' hl hr hr'
    · cases hl
      rw [hget] at hr'
      exact hentry r' (Option.some.inj hr')

/-- The last link of a chain, after the last statement before it that ran: its statement runs, or the
chain ends as that one did. -/
theorem eval_link {ctx : Context} {left : Segment} {s : State} {last : Ran}
    (h : left.eval ctx .absent false s = (last.result, last.after)) (t : Segment) (stop : Bool)
    (input : Value) (capture : Bool) :
    ((∃ o, last.result = .ok o ∧ (stop = true → o.exitCode = 0)) ∧
        (sequence left t stop).eval ctx input capture s = t.eval ctx .absent false (last.next ctx)) ∨
      ((¬∃ o, last.result = .ok o ∧ (stop = true → o.exitCode = 0)) ∧
        (sequence left t stop).eval ctx input capture s = (last.result, last.after)) := by
  rw [eval]
  cases hr : last.result with
  | error e =>
    right
    rw [hr] at h
    exact ⟨by simp, Action.bind_of_error h⟩
  | ok o =>
    rw [hr] at h
    rw [Action.bind_of_ok h]
    by_cases hgo : stop = true → o.exitCode = 0
    · left
      have htest : (stop && !o.isSuccess) = false := by
        cases stop with
        | false => rfl
        | true => simp [Outcome.isSuccess, hgo rfl]
      have hnext : emit ctx o.value last.after = (.ok (), last.next ctx) := by
        simp only [emit_apply, Ran.next, Ran.handedOn, hr]
        cases ctx.emits && !o.value.isAbsent <;> simp
      refine ⟨⟨o, rfl, hgo⟩, ?_⟩
      rw [htest]
      exact Action.bind_of_ok hnext
    · right
      have htest : (stop && !o.isSuccess) = true := by
        simp only [Classical.not_imp] at hgo
        simp [Outcome.isSuccess, hgo.1, hgo.2]
      refine ⟨?_, by rw [htest]; rfl⟩
      rintro ⟨o', ho', hgo'⟩
      cases ho'
      exact hgo hgo'

/-- **A chain ends as the last of its statements that ran**, and the log has what they did and what is
handed on between them. -/
theorem runsChain (ctx : Context) (first : Segment) (links : List (Bool × Segment)) (s : State) :
    ∃ runs last, RunsChain ctx first links s runs ∧ latest? runs = some last ∧
      (chain first links).eval ctx .absent false s = (last.result, last.after) ∧
      last.after.log = s.log ++ transcript ctx (runs.filterMap id) := by
  -- The outermost operator stands before the last statement, so the induction takes that off.
  induction links using List.reverseRecOn with
  | nil =>
    refine ⟨[some (first.ran ctx s)], first.ran ctx s, ⟨rfl, rfl, ?_, ?_⟩, rfl, rfl, ?_⟩
    · intro i stop t r hl
      simp at hl
    · intro i stop t r r' hl
      simp at hl
    · exact ran_log ctx first s
  | append_singleton links link ih =>
    obtain ⟨stop, t⟩ := link
    obtain ⟨runs, last, hruns, hlast, heval, hlog⟩ := ih
    rw [chain_concat]
    rcases eval_link heval t stop .absent false with ⟨hgo, hstep⟩ | ⟨hgo, hstep⟩
    · refine ⟨runs ++ [some (t.ran ctx (last.next ctx))], _,
        hruns.concat hlast stop t _ (by simpa using hgo) (by simp), latest?_concat_some _ _, hstep, ?_⟩
      obtain ⟨rs, hrs⟩ := List.getLast?_eq_some_iff.mp hlast
      have hall : (runs ++ [some (t.ran ctx (last.next ctx))]).filterMap id =
          rs ++ [last, t.ran ctx (last.next ctx)] := by
        rw [List.filterMap_append, hrs, List.append_assoc]
        rfl
      have hnext : (last.next ctx).log = last.after.log ++ last.handedOn ctx := rfl
      rw [hrs] at hlog
      rw [hall, transcript_concat, ran_log, hnext, hlog]
      simp only [List.append_assoc]
    · refine ⟨runs ++ [none], last, hruns.concat hlast stop t none (by simpa using hgo) (by simp),
        by rw [latest?_concat_none, hlast], hstep, ?_⟩
      simpa using hlog

/-! ## Errors -/

/-- After an error no statement runs. -/
theorem RunsChain.latest_of_error {ctx : Context} {first : Segment} {links : List (Bool × Segment)}
    {s : State} {runs : List (Option Ran)} (h : RunsChain ctx first links s runs) {i : Nat} {r : Ran}
    {e : EvalError} (hi : runs[i]? = some (some r)) (he : r.result = .error e) :
    ∀ k, latest? (runs.take (i + 1 + k)) = some r ∧
      ∀ r', runs[i + 1 + k]? ≠ some (some r') := by
  have hstop : ∀ j, latest? (runs.take (i + 1 + j)) = some r →
      ∀ r', runs[i + 1 + j]? ≠ some (some r') := by
    intro j hlatest r' hr'
    have hlt : i + j < links.length := by
      have := (List.getElem?_eq_some_iff.mp hr').1
      rw [h.entries] at this
      omega
    rw [show i + 1 + j = i + j + 1 by omega] at hlatest hr'
    obtain ⟨o, ho, -⟩ := (h.goesOn (i + j) _ _ r (List.getElem?_eq_getElem hlt) hlatest).mp ⟨r', hr'⟩
    rw [he] at ho
    cases ho
  intro k
  induction k with
  | zero =>
    have hlatest : latest? (runs.take (i + 1)) = some r := by
      rw [List.take_add_one, hi]
      exact latest?_concat_some _ _
    exact ⟨hlatest, hstop 0 hlatest⟩
  | succ k ih =>
    have hlatest : latest? (runs.take (i + 1 + k + 1)) = some r := by
      rw [List.take_add_one]
      cases hentry : runs[i + 1 + k]? with
      | none => simpa using ih.1
      | some entry =>
        cases entry with
        | none => simpa using ih.1
        | some r' => exact absurd hentry (ih.2 r')
    exact ⟨hlatest, hstop (k + 1) hlatest⟩

theorem RunsChain.eq_latest_of_error {ctx : Context} {first : Segment}
    {links : List (Bool × Segment)} {s : State} {runs : List (Option Ran)}
    (h : RunsChain ctx first links s runs) {i : Nat} {r : Ran} {e : EvalError}
    (hi : runs[i]? = some (some r)) (he : r.result = .error e) :
    latest? runs = some r ∧ ∀ (j : Nat) (r' : Ran), runs[j]? = some (some r') → j ≤ i := by
  have hlt := (List.getElem?_eq_some_iff.mp hi).1
  refine ⟨?_, fun j r' hj => ?_⟩
  · have hlatest := (h.latest_of_error hi he (runs.length - (i + 1))).1
    rwa [List.take_of_length_le (by omega)] at hlatest
  · by_contra hgt
    have hno := (h.latest_of_error hi he (j - (i + 1))).2 r'
    rw [show i + 1 + (j - (i + 1)) = j by omega] at hno
    exact hno hj

/-! ## Chains and lines -/

/-- The tree of a line is a chain of statements. -/
theorem exists_chain : ∀ t : Segment, t.shapedAs false = true → ∃ first links, t = chain first links ∧
    first.isStatement = true ∧ ∀ link ∈ links, link.2.isStatement = true
  | .sequence left right stop, h => by
    simp only [shapedAs, Bool.not_false, Bool.true_and, Bool.and_eq_true, decide_eq_true_eq] at h
    obtain ⟨first, links, rfl, hfirst, hlinks⟩ := exists_chain left h.1.1
    have hright : right.isStatement = true := by
      cases right with
      | sequence _ _ _ => exact absurd h.2 (by simp [precedence])
      | _ => rfl
    refine ⟨first, links ++ [(stop, right)], (chain_concat _ _ _ _).symm, hfirst, ?_⟩
    intro link hlink
    rcases List.mem_append.mp hlink with hlink | hlink
    · exact hlinks link hlink
    · rw [List.mem_singleton.mp hlink]
      exact hright
  | .bare _, _ | .command _ _, _ | .pipe _ _, _ | .redirect _ _ _, _ | .text _, _
  | .reference _ _, _ | .interpolation _, _ | .substitution _, _ => ⟨_, [], rfl, rfl, by simp⟩

/-- A chain of two statements or more makes nothing of its input and of the flag. -/
theorem eval_chain_cons (ctx : Context) (first : Segment) (link : Bool × Segment)
    (links : List (Bool × Segment)) (input : Value) (capture : Bool) :
    (chain first (link :: links)).eval ctx input capture =
      (chain first (link :: links)).eval ctx .absent false := by
  rcases List.eq_nil_or_concat links with rfl | ⟨links', ⟨stop, t⟩, rfl⟩
  · simp only [chain, List.foldl_cons, List.foldl_nil]
    rw [eval, eval]
  · rw [List.concat_eq_append, ← List.cons_append, chain_concat, eval, eval]

/-- **No output of a chain is lost or doubled.**  The tree of a line is a chain of statements.  Of a
chain of two statements or more, the statements run as `RunsChain` says, each without input and
without capture; the chain ends as the last of them that ran, in result and state; the log has the
events of those that ran and, after each but the last, its value, if there is one; and an error ends
the chain. -/
theorem eval_chain :
    (∀ line t, Segment.ofLine line = .ok t → ∃ first links, t = chain first links ∧
      first.isStatement = true ∧ ∀ link ∈ links, link.2.isStatement = true) ∧
    ∀ (ctx : Context) (first : Segment) (link : Bool × Segment) (links : List (Bool × Segment))
      (input : Value) (capture : Bool) (s : State),
      ∃ runs last, RunsChain ctx first (link :: links) s runs ∧ latest? runs = some last ∧
        (chain first (link :: links)).eval ctx input capture s = (last.result, last.after) ∧
        last.after.log = s.log ++ transcript ctx (runs.filterMap id) ∧
        ∀ (i : Nat) (r : Ran) (e : EvalError), runs[i]? = some (some r) → r.result = .error e →
          last = r ∧ ∀ (j : Nat) (r' : Ran), runs[j]? = some (some r') → j ≤ i := by
  refine ⟨fun line t h => exists_chain t (wellShaped_of_ofLine h), ?_⟩
  intro ctx first link links input capture s
  obtain ⟨runs, last, hruns, hlast, heval, hlog⟩ := runsChain ctx first (link :: links) s
  refine ⟨runs, last, hruns, hlast, ?_, hlog, fun i r e hi he => ?_⟩
  · rw [eval_chain_cons]
    exact heval
  · obtain ⟨hlatest, hlater⟩ := hruns.eq_latest_of_error hi he
    exact ⟨Option.some.inj (hlast.symm.trans hlatest), hlater⟩

end CommandShell
