import PageShell.Proofs.Region
import PageShell.Wrapping

/-!
# What becomes of a text

The outcome for a text is told from its marker, its anchors and the scan behind the last of them.
Only a text without the marker is wrapped, and then it has the marker, so wrapping always changes a
text. Nothing else changes one.

Results:

* `Locator.neverCloses_iff`: the scan behind the last anchor never closes exactly if no closing
  delimiter has balanced text before it.
* `Locator.locate_eq_unbalanced_iff`: such an anchor is the one that is reported as unbalanced.
* `Wrapping.getLast?_spans_of_wrap`: the anchor of an outcome is the last one of the text.
* `Wrapping.isWrapped_iff_textAfter_ne`: an outcome is a wrapping exactly if it changes the text.
* `Wrapping.status_exact`: which outcome a text has.
-/

namespace PageShell

/-- How a page comes out, without what has been found in it. -/
inductive Status
  | wrapped
  | alreadyWrapped
  | noRegion
  | unbalanced
  deriving DecidableEq, Repr

/-- The status of an outcome. -/
def Outcome.status : Outcome → Status
  | wrapped .. => .wrapped
  | alreadyWrapped => .alreadyWrapped
  | noRegion => .noRegion
  | unbalanced _ => .unbalanced

/-! ## The scan behind the last anchor -/

namespace Locator

variable {l : Locator} {t : Text} {a s : Nat}

/-- The scan that begins at an offset, with one delimiter open, meets the end of the text while a
delimiter is still open. -/
def NeverCloses (l : Locator) (t : Text) (s : Nat) : Prop :=
  ∃ head ahead, Text.cut? t s = some (head, ahead) ∧
    closeOffset? l.opening l.closing 1 s ahead = some none

/-- A scan that closes ends where a region does. -/
theorem neverCloses_iff_locate (hlast : (l.spans t).getLast? = some (a, s)) :
    l.NeverCloses t s ↔ ∀ r, l.locate t ≠ .ok r := by
  obtain ⟨head, ahead, hcut, hscan⟩ := closeOffset?_locate hlast
  have hnone : l.NeverCloses t s ↔ (l.locate t).toOption.map Region.stop = none := by
    constructor
    · rintro ⟨head', ahead', hcut', hscan'⟩
      rw [hcut] at hcut'
      cases hcut'
      rw [hscan, Option.some.injEq] at hscan'
      exact hscan'
    · intro h
      exact ⟨head, ahead, hcut, by rw [hscan, h]⟩
  rw [hnone, Option.map_eq_none_iff]
  cases l.locate t with
  | error e => simp [Except.toOption]
  | ok r => simp [Except.toOption]

/-- **The scan behind the last anchor never closes** exactly if no closing delimiter, other than the
opening one, has balanced text before it. -/
theorem neverCloses_iff (hlast : (l.spans t).getLast? = some (a, s)) :
    l.NeverCloses t s ↔ l.opening = l.closing ∨ ¬∃ e, l.ClosesAt t s e := by
  rw [neverCloses_iff_locate hlast]
  by_cases heq : l.opening = l.closing
  · exact ⟨fun _ => .inl heq, fun _ => locate_ne_ok heq t⟩
  · have hregion : (∃ r, l.locate t = .ok r) ↔ ∃ e, l.ClosesAt t s e := by
      constructor
      · rintro ⟨r, hr⟩
        exact ⟨r.stop, ((exists_ok_iff_closesAt heq hlast _ _ _).1 ⟨r, hr, rfl, rfl, rfl⟩).2.2⟩
      · rintro ⟨e, he⟩
        obtain ⟨r, hr, -⟩ := (exists_ok_iff_closesAt heq hlast a s e).2 ⟨rfl, rfl, he⟩
        exact ⟨r, hr⟩
    rw [or_iff_right heq, ← hregion, not_exists]

theorem locate_eq_unbalanced_iff (hlast : (l.spans t).getLast? = some (a, s)) :
    l.locate t = .error (.unbalanced a) ↔ l.NeverCloses t s := by
  rw [neverCloses_iff_locate hlast]
  constructor
  · intro h r hr
    rw [h] at hr
    cases hr
  · intro h
    rcases locate_cases hlast with ⟨r, hr⟩ | hunbalanced
    · exact absurd hr (h r)
    · exact hunbalanced

end Locator

/-! ## Outcomes -/

namespace Wrapping

variable {w : Wrapping} {c : Category} {t : Text} {a s : Nat}

theorem wrap_of_error {e : LocateError} (hm : w.wrapper.marker.isPresent t = false)
    (he : w.locator.locate t = .error e) (c : Category) : w.wrap c t = .ofLocateError e := by
  simp [wrap, hm, he]

/-- With an anchor and without the marker, a text is wrapped there, unless the scan never closes. -/
theorem wrap_of_last (hm : w.wrapper.marker.isPresent t = false)
    (hlast : (w.locator.spans t).getLast? = some (a, s)) (c : Category) :
    (w.locator.NeverCloses t s ∧ w.wrap c t = .unbalanced a) ∨
      (¬w.locator.NeverCloses t s ∧ ∃ u, w.wrap c t = .wrapped u a) := by
  by_cases hnever : w.locator.NeverCloses t s
  · have he := (Locator.locate_eq_unbalanced_iff hlast).2 hnever
    exact .inl ⟨hnever, wrap_of_error hm he c⟩
  · obtain ⟨r, hr⟩ : ∃ r, w.locator.locate t = .ok r := by
      rw [Locator.neverCloses_iff_locate hlast] at hnever
      simpa using hnever
    rw [wrap_of_locate hm hr, (Locator.offsets_of_locate hlast hr).1]
    exact .inr ⟨hnever, _, rfl⟩

theorem wrap_of_spans_eq_nil (hm : w.wrapper.marker.isPresent t = false)
    (h : w.locator.spans t = []) (c : Category) : w.wrap c t = .noRegion :=
  wrap_of_error hm (Locator.locate_eq_noAnchor_iff.2 h) c

/-- **The anchor of an outcome is the last one of the text**, whether its region is closed or
not. -/
theorem getLast?_spans_of_wrap (h : (w.wrap c t).anchor? = some a) :
    ∃ start, (w.locator.spans t).getLast? = some (a, start) := by
  cases hm : w.wrapper.marker.isPresent t with
  | true =>
    rw [wrap_of_isPresent hm] at h
    cases h
  | false =>
    cases hlast : (w.locator.spans t).getLast? with
    | none =>
      rw [wrap_of_spans_eq_nil hm (List.getLast?_eq_none_iff.1 hlast)] at h
      cases h
    | some span =>
      obtain ⟨last, start⟩ := span
      refine ⟨start, ?_⟩
      rcases wrap_of_last hm hlast c with ⟨-, hwrap⟩ | ⟨-, u, hwrap⟩
      · rw [hwrap] at h
        cases h
        rfl
      · rw [hwrap] at h
        cases h
        rfl

theorem status_eq_alreadyWrapped_iff :
    (w.wrap c t).status = .alreadyWrapped ↔ w.wrapper.marker.isPresent t = true := by
  cases hm : w.wrapper.marker.isPresent t with
  | true => exact iff_of_true (by rw [wrap_of_isPresent hm]; rfl) rfl
  | false =>
    refine iff_of_false ?_ Bool.false_ne_true
    cases hl : w.locator.locate t with
    | error e =>
      rw [wrap_of_error hm hl]
      cases e with
      | noAnchor | unbalanced => simp [Outcome.ofLocateError, Outcome.status]
    | ok r =>
      rw [wrap_of_locate hm hl]
      simp [Outcome.status]

theorem status_eq_noRegion_iff (hm : w.wrapper.marker.isPresent t = false) :
    (w.wrap c t).status = .noRegion ↔ w.locator.spans t = [] := by
  constructor
  · intro h
    cases hlast : (w.locator.spans t).getLast? with
    | none => exact List.getLast?_eq_none_iff.1 hlast
    | some span =>
      rcases wrap_of_last hm hlast c with ⟨-, hwrap⟩ | ⟨-, u, hwrap⟩
      · rw [hwrap] at h
        cases h
      · rw [hwrap] at h
        cases h
  · intro h
    rw [wrap_of_spans_eq_nil hm h]
    rfl

/-- A text is not wrapped if the marker is in it. -/
theorem isPresent_eq_false_of_wrap {u : Text} (h : w.wrap c t = .wrapped u a) :
    w.wrapper.marker.isPresent t = false := by
  rw [Bool.eq_false_iff]
  intro hm
  rw [wrap_of_isPresent hm] at h
  cases h

/-- **A text is changed exactly if it is wrapped.** The marker is in what it becomes, and was not in
the text before. -/
theorem isWrapped_iff_textAfter_ne (w : Wrapping) (c : Category) (t : Text) :
    (w.wrap c t).isWrapped = true ↔ (w.wrap c t).textAfter t ≠ t := by
  cases h : w.wrap c t with
  | wrapped u a =>
    refine iff_of_true rfl (fun heq : u = t => ?_)
    subst heq
    have hpresent := isPresent_of_wrap h
    rw [isPresent_eq_false_of_wrap h] at hpresent
    cases hpresent
  | alreadyWrapped | noRegion | unbalanced =>
    exact iff_of_false Bool.false_ne_true fun hne => hne rfl

/-- The category of a page has no part in its status and its anchor. -/
theorem status_anchor_eq (w : Wrapping) (c c' : Category) (t : Text) :
    (w.wrap c' t).status = (w.wrap c t).status ∧ (w.wrap c' t).anchor? = (w.wrap c t).anchor? := by
  cases hm : w.wrapper.marker.isPresent t with
  | true =>
    rw [wrap_of_isPresent hm, wrap_of_isPresent hm]
    exact ⟨rfl, rfl⟩
  | false =>
    cases hl : w.locator.locate t with
    | error e =>
      rw [wrap_of_error hm hl, wrap_of_error hm hl]
      exact ⟨rfl, rfl⟩
    | ok r =>
      rw [wrap_of_locate hm hl, wrap_of_locate hm hl]
      simp only [Outcome.status, Outcome.anchor?, and_self]

/-- **Which outcome a text has.** It is already wrapped if both parts of the marker are in it.
Otherwise it has no region if it has no anchor; and if it has one, the last anchor is that of the
outcome, which is unbalanced if the scan behind the anchor never closes, and wrapped else. A text is
changed exactly if it is wrapped. The category has no part in this. -/
theorem status_exact (w : Wrapping) (c : Category) (t : Text) :
    ((w.wrap c t).status = .alreadyWrapped ↔
      w.wrapper.openingName <:+: t ∧ w.wrapper.closingTag <:+: t) ∧
    ((w.wrap c t).status ≠ .alreadyWrapped →
      ((w.wrap c t).status = .noRegion ↔ w.locator.spans t = []) ∧
      ∀ a s, (w.locator.spans t).getLast? = some (a, s) →
        (w.wrap c t).anchor? = some a ∧
        ((w.wrap c t).status = .unbalanced ↔ w.locator.NeverCloses t s) ∧
        ((w.wrap c t).status = .wrapped ↔ ¬w.locator.NeverCloses t s) ∧
        (w.locator.NeverCloses t s ↔
          w.locator.opening = w.locator.closing ∨ ¬∃ e, w.locator.ClosesAt t s e)) ∧
    ((w.wrap c t).isWrapped = true ↔ (w.wrap c t).status = .wrapped) ∧
    ((w.wrap c t).isWrapped = true ↔ (w.wrap c t).textAfter t ≠ t) ∧
    ∀ c', (w.wrap c' t).status = (w.wrap c t).status ∧
      (w.wrap c' t).anchor? = (w.wrap c t).anchor? := by
  have hwrapped : (w.wrap c t).isWrapped = true ↔ (w.wrap c t).status = .wrapped := by
    cases w.wrap c t with
    | wrapped | alreadyWrapped | noRegion | unbalanced => simp [Outcome.isWrapped, Outcome.status]
  refine ⟨status_eq_alreadyWrapped_iff.trans (w.wrapper.marker.isPresent_iff t), ?_, hwrapped,
    w.isWrapped_iff_textAfter_ne c t, fun c' => w.status_anchor_eq c c' t⟩
  intro h
  rw [ne_eq, status_eq_alreadyWrapped_iff, Bool.not_eq_true] at h
  refine ⟨status_eq_noRegion_iff h, ?_⟩
  intro a s hlast
  have hcloses := Locator.neverCloses_iff hlast
  rcases wrap_of_last h hlast c with ⟨hnever, hwrap⟩ | ⟨hnever, u, hwrap⟩
  · rw [hwrap]
    exact ⟨rfl, iff_of_true rfl hnever,
      iff_of_false (by simp [Outcome.status]) (fun hc => hc hnever), hcloses⟩
  · rw [hwrap]
    exact ⟨rfl, iff_of_false (by simp [Outcome.status]) hnever, iff_of_true rfl hnever, hcloses⟩

end Wrapping

end PageShell
