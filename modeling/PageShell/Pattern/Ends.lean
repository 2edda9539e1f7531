import PageShell.NumberSet
import PageShell.Pattern.Basic
import PageShell.Text.Cursor

/-!
# Where a match can end

`Pattern.ends p c` lists the places where a match of `p` that starts at `c` can end, each once
and the preferred one first.

Results:

* `before_of_mem_ends`: a match ends at or behind the place where it starts.
-/

namespace PageShell.Pattern

/-! ## Lists of places -/

/-- The places of a list that are not among those seen before, each once. -/
def distinctFrom (seen : NumberSet) : List Cursor → List Cursor
  | [] => []
  | c :: cs =>
    if seen.mem c.offset then distinctFrom seen cs
    else c :: distinctFrom (seen.insert c.offset) cs

/-- The places of a list without those that came before in it. -/
def distinct (cs : List Cursor) : List Cursor := distinctFrom {} cs

/-- The places that can be reached by one step from some place of the list, those from earlier
places first. -/
def chain (step : Cursor → List Cursor) : List Cursor → List Cursor
  | [] => []
  | [c] => step c
  | cs => distinct (cs.flatMap step)

/-- The places that can be reached by exactly `n` steps. -/
def exactly (step : Cursor → List Cursor) : Nat → List Cursor → List Cursor
  | 0, cs => cs
  | _ + 1, [] => []
  | n + 1, cs => exactly step n (chain step cs)

/-! ## Runs of characters -/

/-- The places reached by stepping over no character of the set, over one, and so on, over at
most `n`. -/
def stepOver (s : CharSet) : Nat → Cursor → List Cursor
  | 0, c => [c]
  | n + 1, c =>
    match c.ahead with
    | x :: rest => if s.mem x.toNat then c :: stepOver s n (c.step x rest) else [c]
    | [] => [c]

/-- The ends of a run of characters of the set. -/
def runEnds (rounds : Rounds) (s : CharSet) (c : Cursor) : List Cursor :=
  let reached := (stepOver s (rounds.max.getD c.ahead.length) c).drop rounds.min
  if rounds.greedy then reached.reverse else reached

/-! ## Loops -/

/-- The ends that the rounds of a loop have found, the latest first, the same ends as offsets, and
what has been entered on the way. -/
structure Found where
  ends : List Cursor := []
  offsets : NumberSet := {}
  entered : NumberSet := {}

namespace Found

/-- One more end, unless it was found before. -/
def add (f : Found) (c : Cursor) : Found :=
  if f.offsets.mem c.offset then f
  else { f with ends := c :: f.ends, offsets := f.offsets.insert c.offset }

/-- Takes note of what is entered. -/
def enter (f : Found) (key : Nat) : Found := { f with entered := f.entered.insert key }

end Found

/-- The ends of at most so many rounds from a place, of a loop with at most `limit` rounds. A
greedy loop prefers to go on. A place is entered once with each number of rounds left. -/
def upTo (step : Cursor → List Cursor) (greedy : Bool) (limit : Nat) :
    Nat → Cursor → Found → Found
  | 0, c, f => f.add c
  | rounds + 1, c, f =>
    let key := c.offset * (limit + 1) + rounds
    if f.entered.mem key then f
    else
      let begun := f.enter key
      let gone := (step c).foldl (fun f d => upTo step greedy limit rounds d f)
        (if greedy then begun else begun.add c)
      gone.add c

/-- Takes note that a round from `c` has ended at `d`, where the loop may end or, by `goOn`, go on.
A place where a round has ended before is not entered again, and a round that matched nothing is
the last. -/
def arrive (greedy : Bool) (goOn : Cursor → Found → Found) (c : Cursor) (f : Found) (d : Cursor) :
    Found :=
  if f.entered.mem d.offset then f
  else if d.offset = c.offset then (f.enter d.offset).add d
  else if greedy then (goOn d (f.enter d.offset)).add d
  else goOn d ((f.enter d.offset).add d)

/-- The ends of one or more rounds from a place, with fuel for the length of the text ahead. -/
def onward (step : Cursor → List Cursor) (greedy : Bool) : Nat → Cursor → Found → Found
  | 0, c, f => (step c).foldl (arrive greedy (fun _ f => f) c) f
  | fuel + 1, c, f => (step c).foldl (arrive greedy (onward step greedy fuel) c) f

/-- The ends of one or more rounds, the preferred one first. -/
def someRounds (step : Cursor → List Cursor) (greedy : Bool) (c : Cursor) : List Cursor :=
  (onward step greedy c.ahead.length c {}).ends.reverse

/-- The ends of any number of rounds, the preferred one first. -/
def anyRounds (step : Cursor → List Cursor) (greedy : Bool) (c : Cursor) : List Cursor :=
  distinct (if greedy then someRounds step greedy c ++ [c] else c :: someRounds step greedy c)

/-- The ends of a loop. -/
def loopEnds (step : Cursor → List Cursor) (rounds : Rounds) (c : Cursor) : List Cursor :=
  match rounds.max, rounds.min with
  | some max, min =>
    chain (fun c => (upTo step rounds.greedy (max - min) (max - min) c {}).ends.reverse)
      (exactly step min [c])
  | none, 0 => anyRounds step rounds.greedy c
  | none, min + 1 => chain (someRounds step rounds.greedy) (exactly step min [c])

/-! ## Ends of a match -/

/-- The places where a match of the pattern that starts at `c` can end, the preferred one first. -/
def ends : Pattern → Cursor → List Cursor
  | nothing, c => [c]
  | one s, c =>
    match c.ahead with
    | x :: rest => if s.mem x.toNat then [c.step x rest] else []
    | [] => []
  | place p, c => if p.holds c.behind.head? c.ahead.head? then [c] else []
  | seq p q, c => chain (ends q) (ends p c)
  | choice p q, c => distinct (ends p c ++ ends q c)
  | run rounds s, c => runEnds rounds s c
  | loop rounds p, c => loopEnds (ends p) rounds c

/-! ## No match ends before it starts -/

theorem mem_of_mem_distinctFrom {cs : List Cursor} {d : Cursor} {seen : NumberSet}
    (h : d ∈ distinctFrom seen cs) : d ∈ cs := by
  induction cs generalizing seen with
  | nil => simp [distinctFrom] at h
  | cons c cs ih =>
    rw [distinctFrom] at h
    split at h
    · exact List.mem_cons_of_mem _ (ih h)
    · rcases List.mem_cons.1 h with rfl | h
      · exact List.mem_cons_self
      · exact List.mem_cons_of_mem _ (ih h)

theorem mem_of_mem_distinct {cs : List Cursor} {d : Cursor} (h : d ∈ distinct cs) : d ∈ cs :=
  mem_of_mem_distinctFrom h

theorem exists_of_mem_chain {step : Cursor → List Cursor} {cs : List Cursor} {d : Cursor}
    (h : d ∈ chain step cs) : ∃ c ∈ cs, d ∈ step c := by
  unfold chain at h
  split at h
  · simp at h
  · exact ⟨_, List.mem_singleton_self _, h⟩
  · exact List.mem_flatMap.1 (mem_of_mem_distinct h)

/-- Steps that never lead back. -/
def Forward (step : Cursor → List Cursor) : Prop := ∀ c, ∀ d ∈ step c, c.Before d

theorem exactly_forward {step : Cursor → List Cursor} (hs : Forward step) (c : Cursor) (n : Nat) :
    ∀ cs : List Cursor, (∀ d ∈ cs, c.Before d) → ∀ d ∈ exactly step n cs, c.Before d := by
  induction n with
  | zero => intro cs h; exact h
  | succ n ih =>
    intro cs h
    cases cs with
    | nil => simp [exactly]
    | cons e es =>
      apply ih
      intro d hd
      obtain ⟨b, hb, hbd⟩ := exists_of_mem_chain hd
      exact (h b hb).trans (hs b d hbd)

theorem stepOver_forward (s : CharSet) (n : Nat) : Forward (stepOver s n) := by
  induction n with
  | zero =>
    intro c d h
    rw [List.mem_singleton.1 h]
    exact .refl c
  | succ n ih =>
    intro c d h
    unfold stepOver at h
    split at h
    · rename_i x rest hc
      split at h
      · rcases List.mem_cons.1 h with rfl | h
        · exact .refl _
        · exact (Cursor.Before.step hc).trans (ih _ _ h)
      · rw [List.mem_singleton.1 h]
        exact .refl c
    · rw [List.mem_singleton.1 h]
      exact .refl c

theorem runEnds_forward (rounds : Rounds) (s : CharSet) : Forward (runEnds rounds s) := by
  intro c d h
  simp only [runEnds] at h
  split at h
  · exact stepOver_forward s _ c d (List.mem_of_mem_drop (List.mem_reverse.1 h))
  · exact stepOver_forward s _ c d (List.mem_of_mem_drop h)

theorem add_forward {b c : Cursor} {f : Found} (hc : b.Before c) (hf : ∀ d ∈ f.ends, b.Before d) :
    ∀ d ∈ (f.add c).ends, b.Before d := by
  intro d hd
  unfold Found.add at hd
  split at hd
  · exact hf d hd
  · rcases List.mem_cons.1 hd with rfl | hd
    · exact hc
    · exact hf d hd

/-- What holds of the result of a step holds of the result of all steps. -/
theorem foldl_keeps {α β : Type} {P : α → Prop} {f : α → β → α} {bs : List β}
    (h : ∀ a, ∀ b ∈ bs, P a → P (f a b)) : ∀ a, P a → P (bs.foldl f a) := by
  induction bs with
  | nil => exact fun a ha => ha
  | cons b bs ih =>
    intro a ha
    exact ih (fun a c hc => h a c (List.mem_cons_of_mem _ hc)) _ (h a b List.mem_cons_self ha)

theorem upTo_forward {step : Cursor → List Cursor} (hs : Forward step) (greedy : Bool)
    (limit rounds : Nat) : ∀ (c b : Cursor) (f : Found), b.Before c → (∀ d ∈ f.ends, b.Before d) →
      ∀ d ∈ (upTo step greedy limit rounds c f).ends, b.Before d := by
  induction rounds with
  | zero => exact fun c b f hc hf => add_forward hc hf
  | succ rounds ih =>
    intro c b f hc hf
    rw [upTo]
    dsimp only
    split
    · exact hf
    · refine add_forward hc (foldl_keeps (P := fun f : Found => ∀ d ∈ f.ends, b.Before d) ?_ _ ?_)
      · exact fun f d hd hf => ih d b f (hc.trans (hs c d hd)) hf
      · split
        · exact hf
        · exact add_forward hc hf

theorem arrive_forward {greedy : Bool} {goOn : Cursor → Found → Found} {b c d : Cursor} {f : Found}
    (hd : b.Before d) (hf : ∀ e ∈ f.ends, b.Before e)
    (hg : ∀ f : Found, (∀ e ∈ f.ends, b.Before e) → ∀ e ∈ (goOn d f).ends, b.Before e) :
    ∀ e ∈ (arrive greedy goOn c f d).ends, b.Before e := by
  unfold arrive
  split
  · exact hf
  · split
    · exact add_forward hd hf
    · split
      · exact add_forward hd (hg _ hf)
      · exact hg _ (add_forward hd hf)

theorem onward_forward {step : Cursor → List Cursor} (hs : Forward step) (greedy : Bool)
    (fuel : Nat) : ∀ (c b : Cursor) (f : Found), b.Before c → (∀ d ∈ f.ends, b.Before d) →
      ∀ d ∈ (onward step greedy fuel c f).ends, b.Before d := by
  induction fuel with
  | zero =>
    intro c b f hc hf
    rw [onward]
    refine foldl_keeps (P := fun f : Found => ∀ d ∈ f.ends, b.Before d) ?_ f hf
    exact fun f d hd hf => arrive_forward (hc.trans (hs c d hd)) hf fun f hf => hf
  | succ fuel ih =>
    intro c b f hc hf
    rw [onward]
    refine foldl_keeps (P := fun f : Found => ∀ d ∈ f.ends, b.Before d) ?_ f hf
    intro f d hd hf
    have hbd := hc.trans (hs c d hd)
    exact arrive_forward hbd hf fun f hf => ih d b f hbd hf

theorem someRounds_forward {step : Cursor → List Cursor} (hs : Forward step) (greedy : Bool) :
    Forward (someRounds step greedy) := by
  intro c d h
  exact onward_forward hs greedy _ c c {} (.refl c) (by simp) d (List.mem_reverse.1 h)

theorem anyRounds_forward {step : Cursor → List Cursor} (hs : Forward step) (greedy : Bool) :
    Forward (anyRounds step greedy) := by
  intro c d h
  have h := mem_of_mem_distinct h
  have hor : d ∈ someRounds step greedy c ∨ d = c := by
    split at h
    · simpa using h
    · simpa [or_comm] using h
  rcases hor with h | rfl
  · exact someRounds_forward hs greedy c d h
  · exact .refl d

theorem loopEnds_forward {step : Cursor → List Cursor} (hs : Forward step) (rounds : Rounds) :
    Forward (loopEnds step rounds) := by
  intro c d h
  have hstart : ∀ e ∈ [c], c.Before e := fun e he => by
    rw [List.mem_singleton.1 he]
    exact .refl c
  unfold loopEnds at h
  split at h
  · obtain ⟨b, hb, hbd⟩ := exists_of_mem_chain h
    have hcb := exactly_forward hs c _ [c] hstart b hb
    exact hcb.trans (upTo_forward hs _ _ _ b b {} (.refl b) (by simp) d (List.mem_reverse.1 hbd))
  · exact anyRounds_forward hs _ c d h
  · obtain ⟨b, hb, hbd⟩ := exists_of_mem_chain h
    exact (exactly_forward hs c _ [c] hstart b hb).trans (someRounds_forward hs _ b d hbd)

theorem ends_forward (p : Pattern) : Forward p.ends := by
  induction p with
  | nothing =>
    intro c d h
    rw [List.mem_singleton.1 h]
    exact .refl c
  | one s =>
    intro c d h
    unfold ends at h
    split at h
    · rename_i x rest hc
      split at h
      · rw [List.mem_singleton.1 h]
        exact .step hc
      · simp at h
    · simp at h
  | place p =>
    intro c d h
    unfold ends at h
    split at h
    · rw [List.mem_singleton.1 h]
      exact .refl c
    · simp at h
  | seq p q hp hq =>
    intro c d h
    obtain ⟨b, hb, hbd⟩ := exists_of_mem_chain h
    exact (hp c b hb).trans (hq b d hbd)
  | choice p q hp hq =>
    intro c d h
    rcases List.mem_append.1 (mem_of_mem_distinct h) with h | h
    · exact hp c d h
    · exact hq c d h
  | run rounds s => exact runEnds_forward rounds s
  | loop rounds p hp => exact loopEnds_forward hp rounds

theorem before_of_mem_ends {p : Pattern} {c d : Cursor} (h : d ∈ p.ends c) : c.Before d :=
  ends_forward p c d h

end PageShell.Pattern
