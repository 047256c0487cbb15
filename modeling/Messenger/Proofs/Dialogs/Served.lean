import Messenger.Proofs.Dialogs.Server

/-!
# Calls that a server answers

What a call does when a `DialogServer` answers its requests does not depend on the rest of the
world: each request that is sent moves the iterator on by one page of the server
(`DialogServer.advance`), until something can be given out.

1. **Steps** (`DialogServer.Drives`): the requests that are answered on the way from one state to
   another.
2. **Worlds** (`next_of_drives`, `drives_of_sent`): a call in a world that holds the answers of the
   server takes these steps, and no others.
3. **Ledger** (`ledger_of_drives`): the steps keep the ledger of the iterator.
-/

namespace Messenger

/-- The request that is sent when a page has to come first. -/
def Pages.dialogsRequest (pages : Pages DialogPosition Dialog) : Wire.GetDialogs :=
  pages.position.request pages.pageSize

/-- The server answered the request with its page. -/
def Exchange.Served (server : DialogServer) (exchange : Exchange DialogPosition Dialog) : Prop :=
  exchange.outcome = Paged.outcome exchange.position exchange.size
    (server.page exchange.position exchange.size).answer

namespace DialogServer

variable (server : DialogServer)

/-- The answer to a request. -/
def respond (request : Wire.GetDialogs) : Answer :=
  Wire.Dialogs.answer (.slice (server.part request))

/-- The page that comes next, as it is read. -/
def nextPage (pages : Pages DialogPosition Dialog) : Page DialogPosition Dialog :=
  (pages.position.page pages.pageSize (server.page pages.position pages.pageSize)).value

/-- The state once the next page has come. -/
def advance (pages : Pages DialogPosition Dialog) : Pages DialogPosition Dialog :=
  pages.absorb (server.nextPage pages) (server.page pages.position pages.pageSize).count

/-- Some requests are answered on the way from one state to another: before each of them there was
nothing to give out. -/
inductive Drives (server : DialogServer) :
    Pages DialogPosition Dialog → List Wire.GetDialogs → Pages DialogPosition Dialog → Prop
  | nothing (pages : Pages DialogPosition Dialog) : Drives server pages [] pages
  | more {pages pages' : Pages DialogPosition Dialog} {requests : List Wire.GetDialogs}
      (empty : pages.ready? = none) (rest : Drives server (server.advance pages) requests pages') :
      Drives server pages (pages.dialogsRequest :: requests) pages'

variable {server} {pages pages' pages'' : Pages DialogPosition Dialog}
  {requests later : List Wire.GetDialogs}

namespace Drives

theorem append (hfirst : Drives server pages requests pages')
    (hlater : Drives server pages' later pages'') :
    Drives server pages (requests ++ later) pages'' := by
  induction hfirst with
  | nothing pages => exact hlater
  | more hempty _ ih => exact .more hempty (ih hlater)

/-- Of two ways from one state, one goes on where the other one ends. -/
theorem linear (hfirst : Drives server pages requests pages')
    (hsecond : Drives server pages later pages'') :
    (∃ rest, Drives server pages' rest pages'') ∨ ∃ rest, Drives server pages'' rest pages' := by
  induction hfirst generalizing later with
  | nothing pages => exact Or.inl ⟨later, hsecond⟩
  | more hempty hrest ih =>
    cases hsecond with
    | nothing => exact Or.inr ⟨_, .more hempty hrest⟩
    | more _ hrest' => exact ih hrest'

/-- Nothing is asked for when there is something to give out. -/
theorem eq_of_ready (hdrives : Drives server pages requests pages')
    (hready : pages.ready? ≠ none) : pages' = pages := by
  cases hdrives with
  | nothing => rfl
  | more hempty _ => exact absurd hempty hready

end Drives

/-! ## Worlds -/

variable {services : Services} {world world' : World} {answers : List Answer}

theorem exchange_respond (server : DialogServer) (pages : Pages DialogPosition Dialog) :
    (pages.exchange (server.respond pages.dialogsRequest)).outcome =
      .ok (server.nextPage pages, (server.page pages.position pages.pageSize).count) := rfl

/-- A page that the server sends moves the iterator on. -/
theorem fetch_respond (server : DialogServer) (pages : Pages DialogPosition Dialog)
    (services : Services)
    (hanswers : world.answers = server.respond pages.dialogsRequest :: answers) :
    ∃ world', pages.fetch services world = (.ok (server.advance pages), world') ∧
      world'.sent = world.sent ++ [.call (.getDialogs pages.dialogsRequest)] ∧
      world'.answers = answers := by
  obtain ⟨hresult, hsent, hrest⟩ := pages.fetch_spec services world
  rw [hanswers, List.head?_cons, Option.getD_some] at hresult hsent
  rw [exchange_respond] at hresult
  refine ⟨_, Prod.ext hresult rfl, hsent, ?_⟩
  rw [hrest, hanswers, List.tail_cons]

/-- A call in a world that holds the answers of the server goes the way of the requests. -/
theorem next_of_drives (hdrives : Drives server pages requests pages')
    (hanswers : world.answers = requests.map server.respond ++ answers) (services : Services) :
    ∃ world', pages.next services world = pages'.next services world' ∧
      world'.sent = world.sent ++ requests.map (.call <| .getDialogs ·) ∧
      world'.answers = answers := by
  induction hdrives generalizing world with
  | nothing pages => exact ⟨world, rfl, by simp, hanswers⟩
  | @more pages pages' requests hempty _ ih =>
    obtain ⟨between, hfetch, hsent, hrest⟩ := fetch_respond server pages services hanswers
    obtain ⟨world', hnext, hlater, hleft⟩ := ih hrest
    refine ⟨world', ?_, ?_, hleft⟩
    · rw [Pages.next_of_fetched hempty hfetch, hnext]
    · rw [hlater, hsent, List.map_cons, List.append_assoc, List.singleton_append]

/-- If a call sends the requests that the server answers, it goes their way. -/
theorem drives_of_sent (world : World) (hanswers : world.answers = requests.map server.respond)
    (others : List Wire.Request)
    (hsent : (pages.next services world).world.sent =
      world.sent ++ (requests.map (.call <| .getDialogs ·) ++ others)) :
    ∃ pages', Drives server pages requests pages' := by
  induction requests generalizing pages world with
  | nil => exact ⟨pages, .nothing pages⟩
  | cons request requests ih =>
    cases hready : pages.ready? with
    | some ready =>
      rw [Pages.next_of_ready hready] at hsent
      simp at hsent
    | none =>
      -- the first request is the one for the next page, so the answer belongs to it
      obtain ⟨later, hlater⟩ := Pages.sent_next_of_empty hready services world
      have hsame : request = pages.dialogsRequest := by
        rw [hlater] at hsent
        have hheads := (List.cons.inj (List.append_cancel_left hsent)).1
        exact (Wire.Call.getDialogs.inj (Wire.Request.call.inj hheads)).symm
      subst hsame
      obtain ⟨between, hfetch, hfirst, hrest⟩ :=
        fetch_respond server pages services (hanswers.trans (List.map_cons ..))
      rw [Pages.next_of_fetched hready hfetch] at hsent
      obtain ⟨pages', hdrives⟩ := ih between hrest (by rw [hsent, hfirst]; simp)
      exact ⟨pages', .more hready hdrives⟩

/-! ## Ledger -/

/-- The pages of the server keep the ledger. -/
theorem ledger_of_drives {limit : Option Nat} {start : DialogPosition} {given : List Dialog}
    {history : List (Exchange DialogPosition Dialog)}
    (ledger : Ledger limit start given history pages)
    (hdrives : Drives server pages requests pages') :
    ∃ asked, Ledger limit start given (history ++ asked) pages' ∧
      ∀ exchange ∈ asked, exchange.Served server := by
  induction hdrives generalizing history with
  | nothing pages => exact ⟨[], by simpa using ledger, by simp⟩
  | @more pages pages' requests hempty _ ih =>
    obtain ⟨-, hdue⟩ := ledger.due hempty (server.respond pages.dialogsRequest)
    obtain ⟨asked, hledger, hserved⟩ := ih (ledger.absorb hdue (exchange_respond server pages))
    refine ⟨_ :: asked, by simpa using hledger, ?_⟩
    intro exchange hexchange
    rcases List.mem_cons.1 hexchange with rfl | hlater
    · rfl
    · exact hserved exchange hlater

end DialogServer

end Messenger
