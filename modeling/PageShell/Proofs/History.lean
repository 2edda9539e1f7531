import PageShell.Proofs.RunEffect

/-!
# Histories of a file tree

Runners with different configurations work on the same file tree, one call after the other. What
they do is a sequence of events, each of which deals with one path. As long as all of them put the
same element around pages, a file that has been rewritten carries the marker of that element, and
none of them rewrites it again.

Results:

* `lead_history`, `entries_history`: the events of some calls account for the trees that the calls
  leave and for all entries that they report.
* `changes_cases`: what an event can change.
* `quiet_of_marked`: an event leaves a marked page alone.
* `pairwise_of_lead`: after an event that changes a file no event does.
* `rewritten_once`: every file is rewritten at most once.
-/

namespace PageShell

open Runner (entry)

/-! ## Calls and events -/

/-- What can be done with a runner. -/
inductive Operation
  /-- A run over the listed files. -/
  | run (dryRun : Bool)
  /-- Dealing with one file, listed or not. -/
  | visit (file : String) (dryRun : Bool)
  /-- Looking at what would become of one file. -/
  | preview (file : String)

/-- An operation with the runner that it is done with. -/
structure Call where
  runner : Runner
  operation : Operation

/-- A path that is dealt with by a runner, and the tree that this happens in. -/
structure Event where
  runner : Runner
  file : String
  dryRun : Bool
  before : FileTree

namespace Event

/-- The tree after an event. -/
def after (e : Event) : FileTree := (e.runner.visit e.dryRun e.before e.file).tree

/-- What an event reports about its path. -/
def entry (e : Event) : Entry := Runner.entry e.file (e.runner.preview e.before e.file)

/-- Whether the path of an event leads to a location. -/
def LeadsTo (e : Event) (loc : Location) : Prop := e.runner.LeadsTo e.before e.file loc

/-- Whether an event changes what is at a location. -/
def Changes (e : Event) (loc : Location) : Prop := e.after.item? loc ≠ e.before.item? loc

/-- Some events, one after the other, lead from one tree to another. -/
def Lead : FileTree → List Event → FileTree → Prop
  | tree, [], last => tree = last
  | tree, e :: events, last => e.before = tree ∧ Lead e.after events last

/-- The events of a tour. -/
def ofTour (r : Runner) (dryRun : Bool) : FileTree → List String → List Event
  | _, [] => []
  | tree, file :: files =>
    ⟨r, file, dryRun, tree⟩ :: ofTour r dryRun (r.visit dryRun tree file).tree files

end Event

namespace Call

/-- The tree after a call. -/
def after (tree : FileTree) : Call → FileTree
  | ⟨r, .run dryRun⟩ => (r.run dryRun tree).tree
  | ⟨r, .visit file dryRun⟩ => (r.visit dryRun tree file).tree
  | ⟨_, .preview _⟩ => tree

/-- What a call reports. -/
def entries (tree : FileTree) : Call → List Entry
  | ⟨r, .run dryRun⟩ => (r.run dryRun tree).report.entries
  | ⟨r, .visit file dryRun⟩ => [(r.visit dryRun tree file).entry]
  | ⟨r, .preview file⟩ => [entry file (r.preview tree file)]

/-- The events of a call. -/
def events (tree : FileTree) : Call → List Event
  | ⟨r, .run dryRun⟩ => Event.ofTour r dryRun tree r.config.files
  | ⟨r, .visit file dryRun⟩ => [⟨r, file, dryRun, tree⟩]
  | ⟨r, .preview file⟩ => [⟨r, file, true, tree⟩]

/-- The tree after some calls. -/
def afterAll (tree : FileTree) (calls : List Call) : FileTree :=
  calls.foldl (fun tree call => call.after tree) tree

/-- What some calls report, one after the other. -/
def reports (tree : FileTree) : List Call → List Entry
  | [] => []
  | call :: calls => call.entries tree ++ reports (call.after tree) calls

/-- The events of some calls, one after the other. -/
def history (tree : FileTree) : List Call → List Event
  | [] => []
  | call :: calls => call.events tree ++ history (call.after tree) calls

end Call

namespace Event

variable {tree mid last : FileTree} {loc : Location} {e : Event} {events : List Event}

/-! ## The events account for the calls -/

theorem lead_append {later : List Event} (h : Lead tree events mid) (h' : Lead mid later last) :
    Lead tree (events ++ later) last := by
  induction events generalizing tree with
  | nil =>
    obtain rfl : tree = mid := h
    exact h'
  | cons e events ih => exact ⟨h.1, ih h.2⟩

theorem lead_ofTour (r : Runner) (dryRun : Bool) (tree : FileTree) (files : List String) :
    Lead tree (ofTour r dryRun tree files) (r.tour dryRun tree files).tree := by
  induction files generalizing tree with
  | nil => rfl
  | cons file files ih => exact ⟨rfl, ih _⟩

theorem entries_ofTour (r : Runner) (dryRun : Bool) (tree : FileTree) (files : List String) :
    (ofTour r dryRun tree files).map entry = (r.tour dryRun tree files).entries := by
  induction files generalizing tree with
  | nil => rfl
  | cons file files ih =>
    rw [ofTour, List.map_cons, ih]
    rfl

theorem lead_events (tree : FileTree) (call : Call) :
    Lead tree (call.events tree) (call.after tree) := by
  obtain ⟨r, run | visit | preview⟩ := call
  · exact lead_ofTour ..
  · exact ⟨rfl, rfl⟩
  · exact ⟨rfl, rfl⟩

theorem entries_events (tree : FileTree) (call : Call) :
    (call.events tree).map entry = call.entries tree := by
  obtain ⟨r, run | visit | preview⟩ := call
  · exact entries_ofTour ..
  · rfl
  · rfl

/-- The events of some calls lead to the tree after them. -/
theorem lead_history (tree : FileTree) (calls : List Call) :
    Lead tree (Call.history tree calls) (Call.afterAll tree calls) := by
  induction calls generalizing tree with
  | nil => rfl
  | cons call calls ih => exact lead_append (lead_events tree call) (ih _)

/-- The events of some calls report what the calls do. -/
theorem entries_history (tree : FileTree) (calls : List Call) :
    (Call.history tree calls).map entry = Call.reports tree calls := by
  induction calls generalizing tree with
  | nil => rfl
  | cons call calls ih =>
    rw [Call.history, List.map_append, entries_events, ih]
    rfl

theorem runner_of_mem_ofTour {r : Runner} {dryRun : Bool} {files : List String}
    (h : e ∈ ofTour r dryRun tree files) : e.runner = r := by
  induction files generalizing tree with
  | nil => cases h
  | cons file files ih =>
    rcases List.mem_cons.1 h with rfl | h
    · rfl
    · exact ih h

/-- Every event of some calls comes from the runner of one of them. -/
theorem exists_call_of_mem_history {calls : List Call} (h : e ∈ Call.history tree calls) :
    ∃ call ∈ calls, e.runner = call.runner := by
  induction calls generalizing tree with
  | nil => cases h
  | cons call calls ih =>
    rcases List.mem_append.1 h with h | h
    · refine ⟨call, List.mem_cons_self, ?_⟩
      obtain ⟨r, run | visit | preview⟩ := call
      · exact runner_of_mem_ofTour h
      · rw [List.mem_singleton.1 h]
      · rw [List.mem_singleton.1 h]
    · obtain ⟨call', hmem, hrunner⟩ := ih h
      exact ⟨call', List.mem_cons_of_mem _ hmem, hrunner⟩

/-! ## One event -/

/-- A location with a page that has a marker in it. -/
def Marked (m : Marker) (tree : FileTree) (loc : Location) : Prop :=
  ∃ t, tree.textAt loc = .ok t ∧ m.isPresent t = true

/-- The marker of the wrapper that an event works with. -/
def marker (e : Event) : Marker := e.runner.wrapping.wrapper.marker

/-- **What an event can change:** a file that its path leads to, which it wraps, reports as wrapped
and leaves with the marker. -/
theorem changes_cases (h : e.Changes loc) :
    e.dryRun = false ∧ e.LeadsTo loc ∧ e.entry.result = .ok .wrapped ∧
      Marked e.marker e.after loc := by
  obtain ⟨r, file, dryRun, before⟩ := e
  cases dryRun with
  | true => exact absurd rfl h
  | false =>
    rcases r.visit_cases before file with ⟨-, htree⟩ | ⟨p, u, a, hp, hu, htree⟩
    · exact absurd (congrArg (FileTree.item? · loc) htree) h
    · obtain ⟨hloc, htext, -, houtcome⟩ := Runner.preview_eq_ok_iff.1 hp
      -- the only item that the visit writes is at the location of its page
      have heq : loc = p.location := by
        apply Decidable.byContradiction
        intro hne
        refine h ?_
        rw [after, htree, FileTree.item?_putText_of_ne before hne]
      subst heq
      refine ⟨rfl, hloc, ?_, u, ?_, Wrapping.isPresent_of_wrap (houtcome.symm.trans hu)⟩
      · rw [entry, hp, ← Entry.isWrapped_iff, Runner.isWrapped_entry, hu]
        rfl
      · obtain ⟨mode, hfile⟩ := Runner.item?_of_textAt htext
        rw [after, htree, FileTree.textAt_putText hfile]

/-- **An event leaves a marked page alone** if it works with the same marker, and says so if its
path leads there. -/
theorem quiet_of_marked (h : Marked e.marker e.before loc) :
    ¬e.Changes loc ∧ (e.LeadsTo loc → e.entry.result = .ok .alreadyWrapped) := by
  obtain ⟨t, htext, hmarker⟩ := h
  have hwrap : ∀ c, e.runner.wrapping.wrap c t = .alreadyWrapped :=
    fun c => Wrapping.wrap_of_isPresent hmarker
  have hentry : e.LeadsTo loc → e.entry.result = .ok .alreadyWrapped := by
    intro hleads
    rw [entry, Runner.preview_of_textAt hleads htext, hwrap]
    rfl
  refine ⟨fun hchanges => ?_, hentry⟩
  obtain ⟨-, hleads, hresult, -⟩ := changes_cases hchanges
  rw [hentry hleads] at hresult
  cases hresult

/-! ## All events -/

/-- Once a page is marked, no later event changes it, and those whose path leads to it find it
wrapped. -/
theorem all_quiet_of_marked {m : Marker} (hlead : Lead tree events last)
    (hm : ∀ e ∈ events, e.marker = m) (h : Marked m tree loc) :
    ∀ e ∈ events, ¬e.Changes loc ∧ (e.LeadsTo loc → e.entry.result = .ok .alreadyWrapped) := by
  induction events generalizing tree with
  | nil => simp
  | cons e events ih =>
    obtain ⟨rfl, hlead⟩ := hlead
    have hmarker := hm e List.mem_cons_self
    have hquiet := quiet_of_marked (hmarker ▸ h)
    have hafter : Marked m e.after loc := by
      obtain ⟨t, htext, hpresent⟩ := h
      refine ⟨t, ?_, hpresent⟩
      rw [Runner.textAt_eq_of_item? (Decidable.not_not.1 hquiet.1), htext]
    intro e' he'
    rcases List.mem_cons.1 he' with rfl | he'
    · exact hquiet
    · exact ih hlead (fun e he => hm e (List.mem_cons_of_mem _ he)) hafter e' he'

/-- **After an event that changes a file no event does**, if all of them work with the same
marker. -/
theorem pairwise_of_lead {m : Marker} (hlead : Lead tree events last)
    (hm : ∀ e ∈ events, e.marker = m) (loc : Location) :
    events.Pairwise fun e later => e.Changes loc →
      ¬later.Changes loc ∧ (later.LeadsTo loc → later.entry.result = .ok .alreadyWrapped) := by
  induction events generalizing tree with
  | nil => exact .nil
  | cons e events ih =>
    obtain ⟨rfl, hlead⟩ := hlead
    have hm' : ∀ e ∈ events, e.marker = m := fun e he => hm e (List.mem_cons_of_mem _ he)
    refine .cons ?_ (ih hlead hm')
    intro later hlater hchanges
    obtain ⟨-, -, -, hmarked⟩ := changes_cases hchanges
    exact all_quiet_of_marked hlead hm' (hm e List.mem_cons_self ▸ hmarked) later hlater

end Event

/-- What a runner puts around pages is what its configuration says. -/
theorem Runner.wrapper_of_ofConfig [PatternReader] {w : Workspace} {c : Config} {r : Runner}
    (h : ofConfig w c = .ok r) : r.wrapping.wrapper = c.wrapper := by
  unfold ofConfig at h
  split at h
  · cases h
  · rename_i wrapping hwrapping
    cases h
    exact Config.wrapper_of_wrapping? hwrapping

namespace Call

/-- **Every file is rewritten at most once**, whatever calls are made by runners whose
configurations name the same element. It changes at an event that is no dry run, whose path leads
to the file and which reports it as wrapped, and from then on every event whose path leads there
reports that it has been wrapped already. -/
theorem rewritten_once [PatternReader] {component : String} {calls : List Call}
    (h : ∀ call ∈ calls, Runner.ofConfig call.runner.workspace call.runner.config =
      .ok call.runner ∧ call.runner.config.wrapper.component = component)
    (tree : FileTree) (loc : Location) :
    let events := history tree calls
    (Event.Lead tree events (afterAll tree calls) ∧
        events.map Event.entry = reports tree calls) ∧
      (∀ e ∈ events, e.Changes loc →
        e.dryRun = false ∧ e.LeadsTo loc ∧ e.entry.result = .ok .wrapped) ∧
      events.Pairwise fun e later => e.Changes loc →
        ¬later.Changes loc ∧ (later.LeadsTo loc → later.entry.result = .ok .alreadyWrapped) := by
  intro events
  have hlead := Event.lead_history tree calls
  refine ⟨⟨hlead, Event.entries_history tree calls⟩, ?_, ?_⟩
  · intro e _ hchanges
    obtain ⟨hdry, hleads, hresult, -⟩ := Event.changes_cases hchanges
    exact ⟨hdry, hleads, hresult⟩
  · have hmarker : ∀ e ∈ events, e.marker = (Wrapper.mk component "" ("", "")).marker := by
      intro e he
      obtain ⟨call, hcall, hrunner⟩ := Event.exists_call_of_mem_history he
      obtain ⟨hmade, hcomponent⟩ := h call hcall
      rw [Event.marker, hrunner, Runner.wrapper_of_ofConfig hmade]
      exact Wrapper.marker_eq_of_component hcomponent
    exact Event.pairwise_of_lead hlead hmarker loc

/-- A page is wrapped by one runner and met again, also through a link, by another one that has
nothing but the element in common with the first. -/
theorem rewritten_once_link :
    let first : Runner := ⟨⟨"/", []⟩,
      { Config.default with files := ["Page.jsx", "Link.jsx"] }, ⟨.default, .default⟩⟩
    let other : Wrapper := ⟨"UnifiedLayout", "area", ("user", "mail")⟩
    let second : Runner := ⟨⟨"/", []⟩,
      { Config.default with files := ["Link.jsx"], defaultCategory := .coach, wrapper := other },
      ⟨.default, other⟩⟩
    let calls : List Call :=
      [⟨first, .run false⟩, ⟨second, .visit "./Page.jsx" false⟩, ⟨second, .preview "Link.jsx"⟩]
    let tree : FileTree :=
      ⟨[(["Page.jsx"], .newFile (.text "return ( <A/> )".toList)),
        (["Link.jsx"], .link "Page.jsx")]⟩
    (∀ call ∈ calls, Runner.ofConfig call.runner.workspace call.runner.config =
      .ok call.runner ∧ call.runner.config.wrapper.component = "UnifiedLayout") ∧
      (history tree calls).Pairwise fun e later => e.Changes ["Page.jsx"] →
        ¬later.Changes ["Page.jsx"] ∧
          (later.LeadsTo ["Page.jsx"] → later.entry.result = .ok .alreadyWrapped) := by
  intro first other second calls tree
  have h : ∀ call ∈ calls, Runner.ofConfig call.runner.workspace call.runner.config =
      .ok call.runner ∧ call.runner.config.wrapper.component = "UnifiedLayout" := by
    have hfirst : Runner.ofConfig first.workspace first.config = .ok first := by
      simp [first, Runner.ofConfig, Config.wrapping?, Config.default, Locator.locator?_default]
    have hsecond : Runner.ofConfig second.workspace second.config = .ok second := by
      simp [second, Runner.ofConfig, Config.wrapping?, Config.default, Locator.locator?_default]
    intro call hcall
    simp only [calls, List.mem_cons, List.not_mem_nil, or_false] at hcall
    rcases hcall with rfl | rfl | rfl
    · exact ⟨hfirst, rfl⟩
    · exact ⟨hsecond, rfl⟩
    · exact ⟨hsecond, rfl⟩
  exact ⟨h, (rewritten_once h tree ["Page.jsx"]).2.2⟩

end Call

end PageShell
