import Algorandscout.Library.Cursor
import Algorandscout.Routes

namespace Algorandscout

open Library Library.Program

/-!
# Walking a listing through the service

A caller who wants all of a listing asks for a page, and sends the `next_token` of every response
with the next request.  The service itself walks nothing.

* `Listing` — the listings, with the request for a page and the call it makes;
* `ShowsEntry` — what a response shows of an entry of the indexer's page;
* `page_of_course` — a response shows one page of the indexer, and its token;
* `Walked` — the responses to a caller who follows the tokens;
* `WalkComplete`, `walk_complete` — the caller sees the indexer's chain of pages, no entry left
  out and none twice.
-/

variable (sha512_256 : List UInt8 → Digest) (keyText : KeyText) (config : AlgorandConfig)

/-! ### Listings -/

/-- The listings, with everything but the token. -/
inductive Listing where
  | transactions (address : String) (limit : Int) (afterTime beforeTime txType : Option String)
      (assetId : Option Int)
  | holdings (address : String) (limit : Int) (resolve : Bool)
  | holders (assetId limit : Int) (resolve : Bool)

namespace Listing

/-- The request for a page. -/
def request (nextToken : Option String) : Listing → ApiRequest
  | .transactions address limit afterTime beforeTime txType assetId =>
    .addressTransactions address limit nextToken afterTime beforeTime txType assetId
  | .holdings address limit resolve => .addressTokenBalances address limit nextToken resolve
  | .holders assetId limit resolve => .tokenHolders assetId limit nextToken resolve

/-- The call for a page. -/
def call (nextToken : Option String) : Listing → Call
  | .transactions address limit afterTime beforeTime txType assetId =>
    .accountTransactions address limit nextToken afterTime beforeTime txType assetId
  | .holdings address limit _ => .accountAssets address limit nextToken
  | .holders assetId limit _ => .assetBalances assetId limit nextToken

/-- Where the entries of the indexer's page are. -/
def entriesKey : Listing → String
  | .transactions _ _ _ _ _ _ => "transactions"
  | .holdings _ _ _ => "assets"
  | .holders _ _ _ => "balances"

end Listing

/-- An item of a listing. -/
inductive ListedItem where
  | transaction (item : MappedTransaction)
  | holding (item : MappedHolding)
  | holder (item : MappedHolder)

/-- The items of a response. -/
def ApiResponse.listedItems : ApiResponse → List ListedItem
  | .transactions page => page.items.map .transaction
  | .holdings page => page.items.map .holding
  | .holders page => page.items.map .holder
  | _ => []

/-- The `next_token` of a response. -/
def ApiResponse.nextToken : ApiResponse → Option Json
  | .transactions page => page.nextPageParams
  | .holdings page => page.nextPageParams
  | .holders page => page.nextPageParams
  | _ => none

/-- What an item shows: what the mapper makes of the entry, with the tip, the metadata or the
    decimals that it was given. -/
inductive ShowsEntry : Json → ListedItem → Prop
  | transaction {entry : Json} {item : MappedTransaction} (tip : Json)
      (mapped : listedTransaction tip entry = .ok item) : ShowsEntry entry (.transaction item)
  | holding {entry : Json} {item : MappedHolding} (params : AssetParams)
      (mapped : mapHolding params entry = .ok item) : ShowsEntry entry (.holding item)
  | holder {entry : Json} {item : MappedHolder} (decimals : Json)
      (mapped : mapHolder decimals entry = .ok item) : ShowsEntry entry (.holder item)

/-- The entries of the indexer's page. -/
def entriesOf (key : String) (payload : Json) : List Json :=
  match payload.asDict with
  | .ok members =>
    match listed members key with
    | .ok entries => entries
    | .error _ => []
  | .error _ => []

/-- The token that the indexer's page names. -/
def tokenOf (payload : Json) : Option Json :=
  match payload.asDict with
  | .ok members => nextPage members
  | .error _ => none

/-! ### One page -/

variable {α β : Type} {log : RouteLog}

theorem course_check_ok {x : Except Raised β} {f : β → Route α} {a : α}
    (h : Course (validated x >>= f) log (.ok a)) : ∃ b, Course (f b) log (.ok a) := by
  rcases course_ofExcept_bind_iff.mp h with ⟨e, -, -, heq⟩ | ⟨b, -, hrest⟩
  · cases heq
  · exact ⟨b, hrest⟩

theorem course_upstream_ok {call : Call} {f : Json → Route α} {a : α}
    (h : Course (upstream call >>= f) log (.ok a)) :
    ∃ (payload : Json) (rest : RouteLog), callsOf log = (call, .ok payload) :: callsOf rest ∧
      Course (f payload) rest (.ok a) := by
  rcases course_upstream_bind_iff.mp h with ⟨exc, -, heq⟩ | ⟨payload, rest, rfl, hrest⟩
  · cases heq
  · exact ⟨payload, rest, rfl, hrest⟩

theorem course_map_ok {p : Route β} {f : β → α} {a : α} (h : Course (f <$> p) log (.ok a)) :
    ∃ b, Course p log (.ok b) ∧ a = f b := by
  obtain ⟨result, hp, heq⟩ := course_map_iff.mp h
  cases result with
  | ok b => exact ⟨b, hp, Except.ok.inj heq⟩
  | error e => cases heq

theorem course_mapped_ok {x : Except PyError α} {a : α} (h : Course (mapped x) log (.ok a)) :
    x = .ok a := by
  obtain ⟨-, heq⟩ := course_ofExcept_iff.mp h
  cases x with
  | ok b => rw [Except.ok.inj heq]
  | error e => cases heq

/-- A page mapper maps the entries one by one, and hands the token on. -/
theorem page_of_mapped {Item : Type} {payload : Json} {key : String}
    {f : Json → Except PyError Item} {wrap : Item → ListedItem} {page : Page Item}
    (hwrap : ∀ entry item, f entry = .ok item → ShowsEntry entry (wrap item))
    (h : (do
      let members ← payload.asDict
      let items ← (← listed members key).mapM f
      return (⟨items, nextPage members⟩ : Page Item)) = .ok page) :
    List.Forall₂ ShowsEntry (entriesOf key payload) (page.items.map wrap) ∧
      page.nextPageParams = tokenOf payload := by
  obtain ⟨members, hmembers, h⟩ := bind_eq_ok.mp h
  obtain ⟨entries, hentries, h⟩ := bind_eq_ok.mp h
  obtain ⟨items, hitems, h⟩ := bind_eq_ok.mp h
  obtain rfl := Except.ok.inj h
  have hpage : entriesOf key payload = entries := by
    unfold entriesOf
    rw [hmembers]
    show (match listed members key with | .ok entries => entries | .error _ => []) = entries
    rw [hentries]
  have htoken : tokenOf payload = nextPage members := by
    unfold tokenOf
    rw [hmembers]
  refine ⟨?_, htoken.symm⟩
  rw [hpage, List.forall₂_map_right_iff]
  exact (mapM_eq_ok_iff.mp hitems).imp fun entry item => hwrap entry item

variable {sha512_256 keyText config}

/-- The transactions route, when it responds. -/
theorem transactions_of_course {address : String} {limit : Int}
    {nextToken afterTime beforeTime txType : Option String} {assetId : Option Int}
    {page : Page MappedTransaction}
    (h : Course (getAddressTransactions sha512_256 address limit nextToken afterTime beforeTime
      txType assetId) log (.ok page)) :
    ∃ tip payload rest, callsOf log = (.accountTransactions address limit nextToken afterTime
        beforeTime txType assetId, .ok payload) :: rest ∧
      mapTransactionList payload tip = .ok page := by
  obtain ⟨_, h⟩ := course_check_ok h
  have hrest : Course (do
      let payload ← upstream (.accountTransactions address limit nextToken afterTime beforeTime
        txType assetId)
      let members ← mapped payload.asDict
      mapped (mapTransactionList payload (members.get "current-round"))) log (.ok page) := by
    cases assetId with
    | none => exact h
    | some id => exact (course_check_ok h).elim fun _ h => h
  obtain ⟨payload, rest, hcalls, h⟩ := course_upstream_ok hrest
  rcases course_mapping_bind_iff.mp h with ⟨e, -, -, heq⟩ | ⟨members, -, h⟩
  · cases heq
  · exact ⟨_, payload, _, hcalls, course_mapped_ok h⟩

/-- **A response shows one page of the indexer**: its first call asks for that page, its items are
    the entries in order, and its token is the page's. -/
theorem page_of_course {listing : Listing} {nextToken : Option String} {response : ApiResponse}
    (h : Course (respond sha512_256 keyText config (listing.request nextToken)) log
      (.ok response)) :
    ∃ payload rest, callsOf log = (listing.call nextToken, .ok payload) :: rest ∧
      List.Forall₂ ShowsEntry (entriesOf listing.entriesKey payload) response.listedItems ∧
      response.nextToken = tokenOf payload := by
  cases listing with
  | transactions address limit afterTime beforeTime txType assetId =>
    obtain ⟨page, hroute, rfl⟩ := course_map_ok h
    obtain ⟨tip, payload, rest, hcalls, hpage⟩ := transactions_of_course hroute
    exact ⟨payload, rest, hcalls, page_of_mapped (fun _ _ => .transaction tip) hpage⟩
  | holdings address limit resolve =>
    obtain ⟨page, hroute, rfl⟩ := course_map_ok h
    obtain ⟨_, hpayload⟩ := course_check_ok hroute
    obtain ⟨payload, rest, hcalls, hrest⟩ := course_upstream_ok hpayload
    -- Whatever the lookups come to, they are made after the page.
    rcases course_bind_iff.mp hrest with ⟨e, -, heq⟩ | ⟨first, last, params, rfl, -, hend⟩
    · cases heq
    · have hpage := course_mapped_ok hend
      exact ⟨payload, _, hcalls, page_of_mapped (fun _ _ => .holding params) hpage⟩
  | holders assetId limit resolve =>
    obtain ⟨page, hroute, rfl⟩ := course_map_ok h
    obtain ⟨_, hpayload⟩ := course_check_ok hroute
    obtain ⟨payload, rest, hcalls, hrest⟩ := course_upstream_ok hpayload
    rcases course_bind_iff.mp hrest with ⟨e, -, heq⟩ | ⟨first, last, decimals, rfl, -, hend⟩
    · cases heq
    · have hpage := course_mapped_ok hend
      exact ⟨payload, _, hcalls, page_of_mapped (fun _ _ => .holder decimals) hpage⟩

/-! ### Walks -/

/-- The chain of the indexer's pages, when it answers a token with the page `fn` gives. -/
def pagesOf (fn : Option String → Json) : Paged String Json where
  fetch := fn
  next := fun payload =>
    match tokenOf payload with
    | some (.str token) => some token
    | _ => none

/-- The calls for pages that succeed are answered so; the other calls of the route may come to
    anything. -/
def AnsweredBy (fn : Option String → Json) (listing : Listing) (log : RouteLog) : Prop :=
  ∀ nextToken payload, (listing.call nextToken, .ok payload) ∈ callsOf log →
    payload = fn nextToken

variable (sha512_256 keyText config) in
/-- The responses to a caller who starts with a token and follows the tokens of the responses. -/
inductive Walked (fn : Option String → Json) (listing : Listing) :
    Option String → List ApiResponse → Prop
  | last {nextToken : Option String} {response : ApiResponse} {log : RouteLog}
      (course : Course (respond sha512_256 keyText config (listing.request nextToken)) log
        (.ok response))
      (answered : AnsweredBy fn listing log) : Walked fn listing nextToken [response]
  | more {nextToken : Option String} {token : String} {response : ApiResponse}
      {responses : List ApiResponse} {log : RouteLog}
      (course : Course (respond sha512_256 keyText config (listing.request nextToken)) log
        (.ok response))
      (answered : AnsweredBy fn listing log) (follows : response.nextToken = some (.str token))
      (rest : Walked fn listing (some token) responses) :
      Walked fn listing nextToken (response :: responses)

/-- The response shows all of the indexer's page. -/
structure ShowsPage (listing : Listing) (payload : Json) (response : ApiResponse) : Prop where
  items : List.Forall₂ ShowsEntry (entriesOf listing.entriesKey payload) response.listedItems
  token : response.nextToken = tokenOf payload

variable {fn : Option String → Json} {listing : Listing} {responses : List ApiResponse}

/-- One response of a walk. -/
theorem showsPage_of_course {nextToken : Option String} {response : ApiResponse}
    (h : Course (respond sha512_256 keyText config (listing.request nextToken)) log
      (.ok response)) (hanswered : AnsweredBy fn listing log) :
    ShowsPage listing (fn nextToken) response := by
  obtain ⟨payload, rest, hcalls, hitems, htoken⟩ := page_of_course h
  have hpayload : payload = fn nextToken := by
    apply hanswered
    rw [hcalls]
    exact List.mem_cons_self
  rw [hpayload] at hitems htoken
  exact ⟨hitems, htoken⟩

/-- **The responses of a walk** show the pages of the chain, one after the other. -/
theorem Walked.pages {start : Option String}
    (h : Walked sha512_256 keyText config fn listing start responses) :
    ∃ payloads, (∀ k < payloads.length, payloads[k]? = (pagesOf fn).page start k) ∧
      List.Forall₂ (ShowsPage listing) payloads responses := by
  induction h with
  | @last start response log course answered =>
    refine ⟨[fn start], ?_, .cons (showsPage_of_course course answered) .nil⟩
    intro k hk
    rw [List.length_singleton, Nat.lt_one_iff] at hk
    subst hk
    rfl
  | @more start token response responses log course answered follows rest ih =>
    obtain ⟨payloads, hpages, hshown⟩ := ih
    have hshows := showsPage_of_course course answered
    have hnext : (pagesOf fn).next ((pagesOf fn).fetch start) = some token := by
      show (match tokenOf (fn start) with | some (.str token) => some token | _ => none) = _
      rw [← hshows.token, follows]
    refine ⟨fn start :: payloads, ?_, .cons hshows hshown⟩
    intro k hk
    cases k with
    | zero => rfl
    | succ k =>
      rw [List.getElem?_cons_succ, Paged.page_succ_of_some hnext]
      exact hpages k (Nat.lt_of_succ_lt_succ hk)

/-- **What a caller who follows the tokens sees.** -/
structure WalkComplete (fn : Option String → Json) (listing : Listing)
    (responses : List ApiResponse) : Prop where
  /-- Each response shows the next page of the chain. -/
  pages (k : ℕ) (response : ApiResponse) : responses[k]? = some response →
    ∃ payload, (pagesOf fn).page none k = some payload ∧ ShowsPage listing payload response
  /-- After a response without a token the caller has seen the whole chain: every entry of it, in
      order and once. -/
  complete (response : ApiResponse) : responses.getLast? = some response →
    response.nextToken = none → (pagesOf fn).chainLength = responses.length ∧
      List.Forall₂ ShowsEntry
        ((pagesOf fn).collection (entriesOf listing.entriesKey) responses.length)
        (responses.flatMap ApiResponse.listedItems)

/-- The chain ends where a page names no other. -/
theorem page_succ_eq_none {k : ℕ} {payload : Json} (h : (pagesOf fn).page none k = some payload)
    (htoken : tokenOf payload = none) : (pagesOf fn).page none (k + 1) = none := by
  have hnext : (pagesOf fn).next payload = none := by
    show (match tokenOf payload with | some (.str token) => some token | _ => none) = none
    rw [htoken]
  unfold Paged.page
  rw [Paged.cursor_succ, h, Option.bind_some, hnext]
  rfl

/-- **A listing is walked completely** through the service, whatever its other calls come to and
    whether the requests between are retried. -/
theorem walk_complete (h : Walked sha512_256 keyText config fn listing none responses) :
    WalkComplete fn listing responses := by
  obtain ⟨payloads, hpages, hshown⟩ := h.pages
  have hlength := hshown.length_eq
  have hpage : ∀ (k : ℕ) (response : ApiResponse), responses[k]? = some response →
      ∃ payload, (pagesOf fn).page none k = some payload ∧ ShowsPage listing payload response := by
    intro k response hk
    obtain ⟨hlt, rfl⟩ := List.getElem?_eq_some_iff.mp hk
    refine ⟨payloads[k], ?_, List.forall₂_iff_get.mp hshown |>.2 k (hlength ▸ hlt) hlt⟩
    rw [← hpages k (hlength ▸ hlt), List.getElem?_eq_getElem (hlength ▸ hlt)]
  refine ⟨hpage, fun response hlast htoken => ⟨?_, ?_⟩⟩
  · -- No page stands after the last response.
    have hend : (pagesOf fn).page none responses.length = none := by
      rw [List.getLast?_eq_getElem?] at hlast
      obtain ⟨payload, hpayload, hshows⟩ := hpage _ response hlast
      have hpos := (List.getElem?_eq_some_iff.mp hlast).1
      have hnone := page_succ_eq_none hpayload (hshows.token.symm.trans htoken)
      rwa [Nat.sub_add_cancel (Nat.one_le_of_lt (Nat.lt_of_le_of_lt (Nat.zero_le _) hpos))] at hnone
    symm
    apply Paged.length_eq_of_places
    intro k
    rw [← Paged.page_isSome_iff]
    constructor
    · intro hsome
      obtain ⟨response, hk⟩ := Option.isSome_iff_exists.mp hsome
      obtain ⟨payload, hpayload, -⟩ := hpage k response hk
      rw [hpayload]
      rfl
    · intro hsome
      by_contra hnone
      rw [Bool.not_eq_true, Option.isSome_eq_false_iff, Option.isNone_iff_eq_none,
        List.getElem?_eq_none_iff] at hnone
      rw [Paged.page_eq_none_of_le hnone hend] at hsome
      cases hsome
  · rw [← Paged.flatMap_eq_collection hlength (fun k hk => hpages k (hlength ▸ hk))]
    exact forall₂_flatMap hshown fun payload _ response hshows => hshows.items

/-- Two pages with a holder each. -/
def twoPages : Option String → Json
  | none => .obj [("balances", .arr [.obj [("address", .str "A"), ("amount", .int 1)]]),
      ("next-token", .str "more")]
  | some _ => .obj [("balances", .arr [.obj [("address", .str "B"), ("amount", .int 2)]])]

/-- The holders of an asset, one by one and with no decimals. -/
def holdersOfFive : Listing := .holders 5 1 false

/-- A holder as it is shown. -/
def shownHolder (address value : String) : MappedHolder where
  addressHash := .str address
  value := value
  valueDecimal := none
  isFrozen := .bool false
  deleted := .bool false

/-- The course of one request for a page. -/
theorem course_holdersOfFive {nextToken : Option String} {payload : Json}
    {page : Page MappedHolder} (hpage : mapAssetHolders payload .null = .ok page) :
    Course (respond (fun _ => ⟨List.replicate 32 0, rfl⟩) (fun _ => none) mainnetConfig
        (holdersOfFive.request nextToken))
      [⟨.upstream (.assetBalances 5 1 nextToken), (.ok payload : Outcome)⟩]
      (.ok (.holders page)) := by
  refine course_map_iff.mpr ⟨.ok page, ?_, rfl⟩
  refine course_ofExcept_bind_iff.mpr (.inr ⟨5, rfl, ?_⟩)
  refine course_upstream_bind_iff.mpr (.inr ⟨payload, [], rfl, ?_⟩)
  refine course_bind_iff.mpr (.inr ⟨[], [], .null, rfl, course_pure_iff.mpr ⟨rfl, rfl⟩, ?_⟩)
  refine course_ofExcept_iff.mpr ⟨rfl, ?_⟩
  rw [hpage]
  rfl

theorem answeredBy_holdersOfFive (nextToken : Option String) :
    AnsweredBy twoPages holdersOfFive
      [⟨.upstream (.assetBalances 5 1 nextToken), (.ok (twoPages nextToken) : Outcome)⟩] := by
  intro token payload hmem
  have heq := List.mem_singleton.mp hmem
  rw [Prod.mk.injEq] at heq
  obtain ⟨hcall, hpayload⟩ := heq
  have htoken : token = nextToken := by
    have hargs := Call.assetBalances.inj hcall
    exact hargs.2.2
  rw [htoken]
  exact Except.ok.inj hpayload

theorem twoPages_complete : WalkComplete twoPages holdersOfFive
    [.holders ⟨[shownHolder "A" "1"], some (.str "more")⟩,
      .holders ⟨[shownHolder "B" "2"], none⟩] := by
  have hwalk : Walked (fun _ => ⟨List.replicate 32 0, rfl⟩) (fun _ => none) mainnetConfig twoPages
      holdersOfFive none [.holders ⟨[shownHolder "A" "1"], some (.str "more")⟩,
        .holders ⟨[shownHolder "B" "2"], none⟩] :=
    .more (course_holdersOfFive rfl) (answeredBy_holdersOfFive none) rfl
      (.last (course_holdersOfFive rfl) (answeredBy_holdersOfFive (some "more")))
  exact walk_complete hwalk

end Algorandscout
