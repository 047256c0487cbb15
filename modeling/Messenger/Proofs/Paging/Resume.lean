import Messenger.Proofs.Paging.Exchange
import Messenger.Proofs.Steps

/-!
# Failures of an iterator

A page that fails leaves an iterator where it was before the request, so that the next call goes on
from there.

1. **Pages** (`Pages.Fetches`): the steps that bring an iterator from one state to another.
2. **One call** (`Pages.next_cases`): a call brings pages until there is something to give out, or
   until one fails.
3. **Replays** (`Pages.Replays`): the same answers bring the same pages wherever they come.
4. **Many calls** (`Pages.Course`): the calls that did not fail are replayed by the answers that
   were kept; the pages of a call that failed last are left over for one more call.

Main statement: `failed_pages_leave_no_trace`.
-/

namespace Messenger

variable {ρ α : Type} [Paged ρ α]

namespace Pages

/-- The request for the next page. -/
def request (pages : Pages ρ α) : Wire.Request :=
  .call (Paged.call pages.position pages.pageSize)

/-- The state once the next page has come. -/
def turn (pages : Pages ρ α) (value : pages.request.returns.Value) : Pages ρ α :=
  pages.absorb (Paged.page pages.position pages.pageSize value).value
    (Paged.count pages.position pages.pageSize value)

/-- The steps bring pages, one after the other, from one state to another: before each of them there
was nothing to give out. -/
inductive Fetches : Pages ρ α → List Step → Pages ρ α → Prop
  | nothing (pages : Pages ρ α) : Fetches pages [] pages
  | more {pages pages' : Pages ρ α} {value : pages.request.returns.Value} {later : List Step}
      (empty : pages.ready? = none) (rest : Fetches (pages.turn value) later pages') :
      Fetches pages (.sent pages.request (.ok ⟨pages.request.returns, value⟩) :: later) pages'

namespace Fetches

variable {pages pages' pages'' : Pages ρ α} {steps later : List Step}

theorem append (hfirst : Fetches pages steps pages') (hlater : Fetches pages' later pages'') :
    Fetches pages (steps ++ later) pages'' := by
  induction hfirst with
  | nothing pages => exact hlater
  | more hempty _ ih => exact .more hempty (ih hlater)

/-- None of the steps failed. -/
theorem filter_succeeds (hfetches : Fetches pages steps pages') :
    steps.filter Step.succeeds = steps := by
  induction hfetches with
  | nothing pages => rfl
  | @more pages pages' value later _ _ ih =>
    rw [List.filter_cons_of_pos (Step.succeeds_sent_ok pages.request value), ih]

/-- A request that failed is none of the steps. -/
theorem not_mem_of_failed (hfetches : Fetches pages steps pages') {request : Wire.Request}
    {answer : Answer} {error : CallError}
    (hfailed : Client.receive request answer = .error error) :
    Step.sent request answer ∉ steps := by
  intro hmem
  have hsucceeds := List.filter_eq_self.1 hfetches.filter_succeeds _ hmem
  rw [Step.succeeds_sent_of_error hfailed] at hsucceeds
  cases hsucceeds

end Fetches

/-! ## One page -/

variable {pages pages' : Pages ρ α} {services : Services} {world world' : World}

/-- A page comes, or the request for it fails. -/
theorem fetch_cases (pages : Pages ρ α) (services : Services) (world : World) :
    (∃ value, Client.Takes pages.fetch services world
        [.sent pages.request (.ok ⟨pages.request.returns, value⟩)] (.ok (pages.turn value))) ∨
      ∃ answer error, Client.receive pages.request answer = .error error ∧
        Client.Takes pages.fetch services world [.sent pages.request answer] (.error error) := by
  rcases Client.invoke_cases pages.request services world with
    ⟨value, hinvoke⟩ | ⟨answer, error, hfailed, hinvoke⟩
  · exact Or.inl ⟨value,
      hinvoke.bind_nil ((Client.takes_warned _ _ _).bind_nil (Client.takes_pure _ _ _))⟩
  · exact Or.inr ⟨answer, error, hfailed, hinvoke.bind_error⟩

/-- An answer that is a page brings the page. -/
theorem fetch_of_answer {value : pages.request.returns.Value} {answers : List Answer}
    (hanswers : world.answers = .ok ⟨pages.request.returns, value⟩ :: answers)
    (services : Services) :
    ∃ world', pages.fetch services world = (.ok (pages.turn value), world') ∧
      Performs services world [.sent pages.request (.ok ⟨pages.request.returns, value⟩)] world' ∧
      world'.answers = answers := by
  rcases fetch_cases pages services world with ⟨got, htakes⟩ | ⟨answer, error, hfailed, htakes⟩
  · obtain ⟨hanswer, hrest⟩ := htakes.performs.of_sent
    rw [hanswers] at hanswer hrest
    obtain rfl : got = value := by simpa using hanswer
    exact ⟨_, Prod.ext htakes.result_eq rfl, htakes.performs, hrest⟩
  · obtain ⟨hanswer, -⟩ := htakes.performs.of_sent
    rw [hanswers] at hanswer
    rw [hanswer] at hfailed
    cases (Client.receive_eq_ok_iff.2 rfl).symm.trans hfailed

/-- Without an answer, the page is dropped. -/
theorem fetch_of_dropped (pages : Pages ρ α) (services : Services) (hanswers : world.answers = []) :
    Client.Takes pages.fetch services world [.sent pages.request (.error .dropped)]
      (.error .dropped) := by
  rcases fetch_cases pages services world with ⟨value, htakes⟩ | ⟨answer, error, hfailed, htakes⟩
  · obtain ⟨hanswer, -⟩ := htakes.performs.of_sent
    rw [hanswers] at hanswer
    cases hanswer
  · obtain ⟨hanswer, -⟩ := htakes.performs.of_sent
    rw [hanswers] at hanswer
    subst hanswer
    cases hfailed
    exact htakes

/-! ## One call -/

/-- A call brings pages until there is something to give out, or until one fails. If one fails, the
iterator is left as it was before the request. -/
theorem next_cases (pages : Pages ρ α) (services : Services) (world : World) :
    ∃ steps before, Fetches pages steps before ∧
      ((∃ item after world', before.ready? = some (item, after) ∧
          Performs services world steps world' ∧
          pages.next services world = ⟨.ok item, after, world'⟩) ∨
        ∃ answer error world', before.ready? = none ∧
          Client.receive before.request answer = .error error ∧
          Performs services world (steps ++ [.sent before.request answer]) world' ∧
          pages.next services world = ⟨.error error, before, world'⟩) := by
  induction pages, world using @Pages.next.induct ρ α inferInstance services with
  | case1 pages world item after hready =>
    exact ⟨[], pages, .nothing pages,
      Or.inl ⟨item, after, world, hready, .refl services world, next_of_ready hready⟩⟩
  | case2 pages world hready error world' hfetch =>
    rcases fetch_cases pages services world with
      ⟨value, htakes⟩ | ⟨answer, failure, hfailed, htakes⟩
    · have hresult := htakes.result_eq
      rw [hfetch] at hresult
      cases hresult
    · have hresult := htakes.result_eq
      have hperforms := htakes.performs
      rw [hfetch] at hresult hperforms
      obtain rfl := Except.error.inj hresult
      exact ⟨[], pages, .nothing pages,
        Or.inr ⟨answer, error, world', hready, hfailed, hperforms, next_of_failed hready hfetch⟩⟩
  | case3 pages world hready pages' world' hfetch ih =>
    rcases fetch_cases pages services world with
      ⟨value, htakes⟩ | ⟨answer, failure, hfailed, htakes⟩
    · have hresult := htakes.result_eq
      have hperforms := htakes.performs
      rw [hfetch] at hresult hperforms
      obtain rfl := Except.ok.inj hresult
      obtain ⟨steps, before, hfetches, hcourse⟩ := ih
      refine ⟨_ :: steps, before, .more hready hfetches, ?_⟩
      rw [next_of_fetched hready hfetch]
      rcases hcourse with
        ⟨item, after, world'', hitem, hlater, hnext⟩ |
        ⟨answer, error, world'', hempty, hfailed, hlater, hnext⟩
      · exact Or.inl ⟨item, after, world'', hitem, hperforms.append hlater, hnext⟩
      · exact Or.inr ⟨answer, error, world'', hempty, hfailed, hperforms.append hlater, hnext⟩
    · have hresult := htakes.result_eq
      rw [hfetch] at hresult
      cases hresult

/-- The same answers bring the same pages wherever they come. -/
theorem next_of_fetches {before : Pages ρ α} {steps : List Step} {answers : List Answer}
    (hfetches : Fetches pages steps before)
    (hanswers : world.answers = steps.filterMap Step.answer? ++ answers) (services : Services) :
    ∃ world', Performs services world steps world' ∧ world'.answers = answers ∧
      pages.next services world = before.next services world' := by
  induction hfetches generalizing world with
  | nothing pages => exact ⟨world, .refl services world, hanswers, rfl⟩
  | more hempty _ ih =>
    obtain ⟨between, hfetch, hperforms, hrest⟩ := fetch_of_answer hanswers services
    obtain ⟨world', hlater, hleft, hnext⟩ := ih hrest
    exact ⟨world', hperforms.append hlater, hleft, (next_of_fetched hempty hfetch).trans hnext⟩

/-! ## Replays -/

/-- Wherever the answers of the steps come first, so many calls take just these steps, with the
results and the state. -/
def Replays (pages : Pages ρ α) (steps : List Step) (calls : Nat)
    (results : List (Except CallError (Option α))) (pages' : Pages ρ α) : Prop :=
  ∀ (services : Services) (world : World) (rest : List Answer),
    world.answers = steps.filterMap Step.answer? ++ rest →
      ∃ world', pages.run services world calls = ⟨results, pages', world'⟩ ∧
        Performs services world steps world' ∧ world'.answers = rest

namespace Replays

variable {start clean before after : Pages ρ α} {heard pending : List Step} {calls : Nat}
  {results : List (Except CallError (Option α))}

theorem nil (start : Pages ρ α) : Replays start [] 0 [] start := by
  intro services world rest hanswers
  exact ⟨world, rfl, .refl services world, hanswers⟩

/-- After the replay, the pages that come next are brought by one more call. -/
theorem run_succ (hreplays : Replays start heard calls results clean)
    (hpending : Fetches clean pending before) {services : Services} {world : World}
    {rest : List Answer}
    (hanswers : world.answers = (heard ++ pending).filterMap Step.answer? ++ rest) :
    ∃ world', Performs services world (heard ++ pending) world' ∧ world'.answers = rest ∧
      start.run services world (calls + 1) =
        ⟨results ++ [(before.next services world').result],
          (before.next services world').pages, (before.next services world').world⟩ := by
  rw [List.filterMap_append, List.append_assoc] at hanswers
  obtain ⟨between, hrun, hheard, hbetween⟩ := hreplays services world _ hanswers
  obtain ⟨world', hperforms, hrest, hnext⟩ := next_of_fetches hpending hbetween services
  refine ⟨world', hheard.append hperforms, hrest, ?_⟩
  rw [run, hrun, hnext]

/-- If there is something to give out then, the call gives it out. -/
theorem give (hreplays : Replays start heard calls results clean)
    (hpending : Fetches clean pending before) {item : Option α}
    (hready : before.ready? = some (item, after)) :
    Replays start (heard ++ pending) (calls + 1) (results ++ [.ok item]) after := by
  intro services world rest hanswers
  obtain ⟨world', hperforms, hrest, hrun⟩ := hreplays.run_succ hpending hanswers
  rw [next_of_ready hready] at hrun
  exact ⟨world', hrun, hperforms, hrest⟩

/-- If there is nothing to give out and no further answer, the call is dropped. -/
theorem drop (hreplays : Replays start heard calls results clean)
    (hpending : Fetches clean pending before) (hready : before.ready? = none) {world : World}
    (hanswers : world.answers = (heard ++ pending).filterMap Step.answer?) (services : Services) :
    ∃ world', start.run services world (calls + 1) =
        ⟨results ++ [.error .dropped], before, world'⟩ ∧
      Performs services world (heard ++ pending ++ [.sent before.request (.error .dropped)])
        world' := by
  rw [← List.append_nil (List.filterMap _ _)] at hanswers
  obtain ⟨between, hperforms, hrest, hrun⟩ := hreplays.run_succ hpending hanswers
  have hdropped := fetch_of_dropped before services hrest
  rw [next_of_failed hready (Prod.ext hdropped.result_eq rfl)] at hrun
  exact ⟨_, hrun, hperforms.append hdropped.performs⟩

end Replays

/-! ## Many calls -/

/-- The calls that did not fail. -/
def Run.given (run : Run ρ α) : List (Except CallError (Option α)) :=
  run.results.filter (·.isOk)

/-- What some calls did, without their failures: the steps that succeeded brought the pages of the
calls that gave something out, and then perhaps pages for a call that failed after them. -/
structure Course (pages : Pages ρ α) (run : Run ρ α) (steps heard pending : List Step)
    (clean : Pages ρ α) : Prop where
  kept : steps.filter Step.succeeds = heard ++ pending
  replays : Replays pages heard run.given.length run.given clean
  fetches : Fetches clean pending run.pages
  interrupted : pending = [] ∨
    run.pages.ready? = none ∧ ∃ error, run.results.getLast? = some (.error error)

theorem course (pages : Pages ρ α) (services : Services) (world : World) (calls : Nat) :
    ∃ steps heard pending clean,
      Performs services world steps (pages.run services world calls).world ∧
        Course pages (pages.run services world calls) steps heard pending clean := by
  induction calls with
  | zero =>
    exact ⟨[], [], [], pages, .refl services world, rfl, .nil pages, .nothing pages, Or.inl rfl⟩
  | succ calls ih =>
    obtain ⟨steps, heard, pending, clean, hperforms, hcourse⟩ := ih
    generalize hrun : pages.run services world calls = run at hperforms hcourse
    obtain ⟨more, before, hmore, hcall⟩ := next_cases run.pages services run.world
    have hfetches := hcourse.fetches.append hmore
    rcases hcall with ⟨item, after, world', hready, hlater, hnext⟩ |
      ⟨answer, error, world', hready, hfailed, hlater, hnext⟩
    · -- the call gives something out, so the pages before it are no longer pending
      have hsucc : pages.run services world (calls + 1) =
          ⟨run.results ++ [.ok item], after, world'⟩ := by
        rw [Pages.run, hrun, hnext]
      refine ⟨steps ++ more, heard ++ (pending ++ more), [], after, ?_, ?_⟩
      · rw [hsucc]
        exact hperforms.append hlater
      · rw [hsucc]
        refine ⟨?_, ?_, .nothing after, Or.inl rfl⟩
        · rw [List.filter_append, hcourse.kept, hmore.filter_succeeds, List.append_nil,
            List.append_assoc]
        · have hgive := hcourse.replays.give hfetches hready
          simpa [Run.given, Except.isOk, Except.toBool] using hgive
    · -- the call fails, and the pages that it brought are left for the next one
      have hsucc : pages.run services world (calls + 1) =
          ⟨run.results ++ [.error error], before, world'⟩ := by
        rw [Pages.run, hrun, hnext]
      refine ⟨steps ++ (more ++ [.sent before.request answer]), heard, pending ++ more, clean,
        ?_, ?_⟩
      · rw [hsucc]
        exact hperforms.append hlater
      · rw [hsucc]
        have hlost := Step.succeeds_sent_of_error hfailed
        refine ⟨?_, ?_, hfetches, Or.inr ⟨hready, error, List.getLast?_concat⟩⟩
        · simp [hcourse.kept, hmore.filter_succeeds, hlost]
        · simpa [Run.given, Except.isOk, Except.toBool] using hcourse.replays

namespace Course

variable {run : Run ρ α} {steps heard pending : List Step} {clean : Pages ρ α}

/-- The calls that did not fail come again from the answers that were kept. -/
theorem results_eq (hcourse : Course pages run steps heard pending clean)
    (hanswers : world.answers = (steps.filter Step.succeeds).filterMap Step.answer?)
    (services : Services) : (pages.run services world run.given.length).results = run.given := by
  rw [hcourse.kept, List.filterMap_append] at hanswers
  obtain ⟨world', hrun, -, -⟩ := hcourse.replays services world _ hanswers
  rw [hrun]

/-- If the last call failed, it may take one more call to bring the pages that came before the
failure. -/
theorem resume (hcourse : Course pages run steps heard pending clean)
    (hanswers : world.answers = (steps.filter Step.succeeds).filterMap Step.answer?)
    (services : Services) :
    ∃ more, (more = 0 ∨ more = 1 ∧ ∃ error, run.results.getLast? = some (.error error)) ∧
      ∃ again, Performs services world again
          (pages.run services world (run.given.length + more)).world ∧
        again.filter Step.succeeds = steps.filter Step.succeeds ∧
        (pages.run services world (run.given.length + more)).given = run.given ∧
        (pages.run services world (run.given.length + more)).pages = run.pages := by
  rw [hcourse.kept] at hanswers ⊢
  have hsucceed : (heard ++ pending).filter Step.succeeds = heard ++ pending := by
    rw [← hcourse.kept, List.filter_filter]
    simp only [Bool.and_self]
  rcases hcourse.interrupted with rfl | ⟨hready, hfailed⟩
  · rw [List.append_nil] at hanswers hsucceed ⊢
    rw [← List.append_nil (List.filterMap _ _)] at hanswers
    obtain ⟨world', hrun, hperforms, -⟩ := hcourse.replays services world _ hanswers
    have hsame : clean = run.pages := by
      cases hcourse.fetches with
      | nothing => rfl
    refine ⟨0, Or.inl rfl, heard, ?_, hsucceed, ?_, ?_⟩
    · rw [Nat.add_zero, hrun]
      exact hperforms
    · rw [Nat.add_zero, hrun]
      simp [Run.given]
    · rw [Nat.add_zero, hrun]
      exact hsame
  · obtain ⟨world', hrun, hperforms⟩ :=
      hcourse.replays.drop hcourse.fetches hready hanswers services
    have hlost : (Step.sent run.pages.request (.error .dropped)).succeeds = false :=
      Step.succeeds_sent_of_error rfl
    refine ⟨1, Or.inr ⟨rfl, hfailed⟩,
      heard ++ pending ++ [.sent run.pages.request (.error .dropped)], ?_, ?_, ?_, ?_⟩
    · rw [hrun]
      exact hperforms
    · rw [List.filter_append, hsucceed]
      simp [hlost]
    · rw [hrun]
      simp [Run.given, Except.isOk, Except.toBool]
    · rw [hrun]

end Course

end Pages

open Pages in
/-- A failed page leaves an iterator as it was just before the request, from any state: the call
ends with the failure, and the next one begins with the same request. So the failures of any number
of calls leave no trace: if the answers that failed are left out, the calls that did not fail come
again with the same results, from the same requests. -/
theorem failed_pages_leave_no_trace (pages : Pages ρ α) (services : Services) (world : World) :
    (let taken := pages.next services world
      ∃ steps, Performs services world steps taken.world ∧
        ∀ earlier request answer later error, steps = earlier ++ .sent request answer :: later →
          Client.receive request answer = .error error →
            later = [] ∧ taken.result = .error error ∧ Fetches pages earlier taken.pages ∧
              ∀ services' world', ∃ others,
                (taken.pages.next services' world').world.sent =
                  world'.sent ++ request :: others) ∧
      ∀ calls,
        let run := pages.run services world calls
        ∃ steps, Performs services world steps run.world ∧
          let kept := steps.filter Step.succeeds
          let clean := { world with answers := kept.filterMap Step.answer? }
          (pages.run services clean run.given.length).results = run.given ∧
            ∃ more, (more = 0 ∨ more = 1 ∧ ∃ error, run.results.getLast? = some (.error error)) ∧
              let rerun := pages.run services clean (run.given.length + more)
              ∃ again, Performs services clean again rerun.world ∧
                again.filter Step.succeeds = kept ∧ rerun.given = run.given ∧
                rerun.pages = run.pages := by
  refine ⟨?_, fun calls => ?_⟩
  · obtain ⟨steps, before, hfetches, hcall⟩ := next_cases pages services world
    rcases hcall with ⟨item, after, world', -, hperforms, hnext⟩ |
      ⟨answer, error, world', hready, hfailed, hperforms, hnext⟩
    · dsimp only
      rw [hnext]
      refine ⟨steps, hperforms, ?_⟩
      rintro earlier request answer later error rfl hfailed
      exact absurd (by simp) (hfetches.not_mem_of_failed hfailed)
    · dsimp only
      rw [hnext]
      refine ⟨_, hperforms, ?_⟩
      intro earlier request answer' later error' hsplit hfailed'
      rcases Step.last_or_mem hsplit with ⟨rfl, rfl, hlast⟩ | hmem
      · obtain ⟨rfl, rfl⟩ := Step.sent.inj hlast
        obtain rfl := Except.error.inj (hfailed.symm.trans hfailed')
        exact ⟨rfl, rfl, hfetches, sent_next_of_empty hready⟩
      · exact absurd hmem (hfetches.not_mem_of_failed hfailed')
  · obtain ⟨steps, heard, pending, clean, hperforms, hcourse⟩ := course pages services world calls
    exact ⟨steps, hperforms, hcourse.results_eq rfl services, hcourse.resume rfl services⟩

end Messenger
