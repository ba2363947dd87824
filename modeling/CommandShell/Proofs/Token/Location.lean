import CommandShell.Proofs.Token.Place
import Mathlib.Data.List.Induction

/-!
# Exact locations

A scan counts offset, line and column as it goes.  What it counts is what the source has before the
point that it has come to.

* `Location.IsIn`    : the location of an offset in a source;
* `Remains`          : the characters that a source has from a location on;
* `Remains.isIn`     : such a location is exact;
* `Span.chars`       : the characters of a stretch;
* `Scans.consumes`   : a scan goes on at the location behind the characters that it has read.
-/

namespace CommandShell

/-- The location of its offset in a source: its line is counted by the line feeds before it, and its
column from the last of them. -/
structure Location.IsIn (l : Location) (src : List Char) : Prop where
  offset_le : l.offset ≤ src.length
  line_eq : l.line = 1 + (src.take l.offset).count '\n'
  column_eq : l.column = 1 + ((src.take l.offset).reverse.takeWhile (· != '\n')).length

/-- A stretch between two locations of a source, in their order. -/
structure Span.IsIn (sp : Span) (src : List Char) : Prop where
  start : sp.start.IsIn src
  stop : sp.stop.IsIn src
  le : sp.start.offset ≤ sp.stop.offset

/-- The characters of a stretch of a source. -/
def Span.chars (sp : Span) (src : List Char) : List Char :=
  (src.take sp.stop.offset).drop sp.start.offset

/-- From the location on, the source has the characters. -/
def Remains (src : List Char) (l : Location) (cs : List Char) : Prop :=
  ∃ before, src = before ++ cs ∧ l = Location.start.advanceAll before

/-- The point after several characters from the start. -/
theorem advanceAll_start (cs : List Char) :
    Location.start.advanceAll cs =
      ⟨cs.length, 1 + cs.count '\n', 1 + (cs.reverse.takeWhile (· != '\n')).length⟩ := by
  -- The last character decides on line and column.
  induction cs using List.reverseRecOn with
  | nil => rfl
  | append_singleton cs c ih =>
    rw [Token.advanceAll_append, ih]
    by_cases hc : c = '\n'
    · subst hc
      simp [Location.advance, Nat.add_assoc]
    · have hcount : (cs ++ [c]).count '\n' = cs.count '\n' := by
        simp [List.count_append, hc]
      have htake : ((cs ++ [c]).reverse.takeWhile (· != '\n')).length =
          (cs.reverse.takeWhile (· != '\n')).length + 1 := by
        simp [hc]
      rw [hcount, htake]
      simp [Location.advance, hc, Nat.add_assoc]

theorem offset_advanceAll (l : Location) (cs : List Char) :
    (l.advanceAll cs).offset = l.offset + cs.length := by
  induction cs generalizing l with
  | nil => rfl
  | cons c cs ih =>
    have hc : (l.advance c).offset = l.offset + 1 := by
      unfold Location.advance
      split <;> rfl
    rw [Token.advanceAll_cons, ih, hc, List.length_cons]
    omega

theorem offset_advanceAll_start (cs : List Char) :
    (Location.start.advanceAll cs).offset = cs.length := by
  rw [advanceAll_start]

theorem offset_advance (l : Location) (c : Char) : (l.advance c).offset = l.offset + 1 :=
  offset_advanceAll l [c]

namespace Remains

variable {src cs w : List Char} {l : Location} {c : Char}

theorem start (src : List Char) : Remains src .start src := ⟨[], rfl, rfl⟩

theorem append (h : Remains src l (w ++ cs)) : Remains src (l.advanceAll w) cs := by
  obtain ⟨before, rfl, rfl⟩ := h
  exact ⟨before ++ w, by simp, by simp⟩

theorem cons (h : Remains src l (c :: cs)) : Remains src (l.advance c) cs :=
  append (w := [c]) h

/-- **A location that a scan comes to is exact.** -/
theorem isIn (h : Remains src l cs) : l.IsIn src := by
  obtain ⟨before, rfl, rfl⟩ := h
  rw [advanceAll_start]
  constructor
  · simp
  · simp
  · simp

theorem getElem? (h : Remains src l (c :: cs)) : src[l.offset]? = some c := by
  obtain ⟨before, rfl, rfl⟩ := h
  rw [offset_advanceAll_start]
  simp

theorem span_isIn (h : Remains src l (w ++ cs)) : Span.IsIn ⟨l, l.advanceAll w⟩ src :=
  ⟨h.isIn, h.append.isIn, by simp only [offset_advanceAll]; omega⟩

theorem chars_eq (h : Remains src l (w ++ cs)) : Span.chars ⟨l, l.advanceAll w⟩ src = w := by
  obtain ⟨before, rfl, rfl⟩ := h
  simp only [Span.chars]
  rw [offset_advanceAll _ w, offset_advanceAll_start, ← List.append_assoc, ← List.length_append,
    List.take_left, List.drop_left]

end Remains

namespace Token

mutual

/-- A scan goes on behind the characters that it has read. -/
theorem Scans.consumes : ∀ {m : Mode} {cs : List Char} {l : Location} {ts : List Token}
    {cur : Cursor}, Scans m cs l ts cur →
    ∃ used, cs = used ++ cur.rest ∧ cur.loc = l.advanceAll used
  | _, _, _, _, _, .blank (c := c) _ hr => by
    obtain ⟨used, rfl, hloc⟩ := hr.consumes
    exact ⟨c :: used, rfl, hloc⟩
  | _, _, _, _, _, .finish => ⟨[], rfl, rfl⟩
  | _, _, _, _, _, .stop _ => ⟨[], rfl, rfl⟩
  | _, _, _, _, _, .punctuation (k := k) hp hr => by
    obtain ⟨used, hused, hloc⟩ := hr.consumes
    refine ⟨k.symbol.toList ++ used, ?_, by rw [advanceAll_append, hloc]⟩
    rw [punctuation?_eq_append hp, hused, List.append_assoc]
  | _, _, _, _, _, .quoted (q := q) _ hrun hr => by
    obtain ⟨mid, rfl, hclose⟩ := hrun.consumes
    obtain ⟨used, hused, hloc⟩ := hr.consumes
    refine ⟨q :: mid ++ q :: used, ?_, ?_⟩
    · rw [hused]
      simp
    · rw [hloc, hclose]
      simp
  | _, _, _, _, _, .word (c := c) (w := w) _ _ _ hr => by
    obtain ⟨used, rfl, hloc⟩ := hr.consumes
    exact ⟨c :: w ++ used, by simp, by rw [hloc, advanceAll_append]⟩

/-- A quoted run ends with its closing quote, and the source goes on behind that. -/
theorem ScansQuoted.consumes : ∀ {q : Char} {cs : List Char} {l : Location} {body : QuotedBody}
    {cur : Cursor}, ScansQuoted q cs l body cur →
    ∃ mid, cs = mid ++ q :: cur.rest ∧ cur.loc = (l.advanceAll mid).advance q
  | _, _, _, _, _, .close => ⟨[], rfl, rfl⟩
  | _, _, _, _, _, .escape (d := d) _ hr => by
    obtain ⟨mid, rfl, hloc⟩ := hr.consumes
    exact ⟨'\\' :: d :: mid, rfl, hloc⟩
  | _, _, _, _, _, .interpolation (d := d) _ hline hr => by
    obtain ⟨used, rfl, hline'⟩ := hline.consumes
    obtain ⟨mid, rfl, hloc⟩ := hr.consumes
    dsimp only at hline'
    refine ⟨'\x7b' :: used ++ d :: mid, by simp, ?_⟩
    rw [hloc, hline']
    simp
  | _, _, _, _, _, .plain (c := c) _ _ _ hr => by
    obtain ⟨mid, rfl, hloc⟩ := hr.consumes
    exact ⟨c :: mid, rfl, hloc⟩

end

end Token

end CommandShell
