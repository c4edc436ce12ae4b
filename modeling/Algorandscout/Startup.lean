import Algorandscout.Queries
import Algorandscout.Readiness
import Algorandscout.Stack

namespace Algorandscout

open Library Library.Program

/-!
# Start-up, and the network that is read

`AlgorandConfig` takes the network and the URLs from its arguments, from the environment or from a
table of public nodes.  What the service reports is labelled with the network, so the URLs should
lead to nodes of that network.

* `Environ`, `ConfigArgs` — what a configuration is made from;
* `StrLower` — `str.lower`, which the start takes for given;
* `AlgorandConfig.init` — the configuration, with the mismatches it warns about;
* `BaseFrom` — where a base URL comes from;
* `OnNetwork` — what a `session.get` attempt has to do with the network on the label;
* `requests_on_network` — every attempt of the explorer routes and of `/readyz` is one.
-/

/-! ### The configuration -/

/-- `os.environ`. -/
abbrev Environ := String → Option String

/-- `AlgorandConfig(…)`, the request headers aside; a field with `none` is left to its factory. -/
structure ConfigArgs where
  algodUrl : String := ""
  indexerUrl : String := ""
  network : Option String := none
  timeoutS : Option PyFloat := none

/-- The public nodes of a network. -/
structure Endpoints where
  algod : String
  indexer : String

/-- `NETWORK_ENDPOINTS`. -/
def networkEndpoints : List (String × Endpoints) :=
  [("mainnet", ⟨"https://mainnet-api.algonode.cloud", "https://mainnet-idx.algonode.cloud"⟩),
    ("testnet", ⟨"https://testnet-api.algonode.cloud", "https://testnet-idx.algonode.cloud"⟩),
    ("betanet", ⟨"https://betanet-api.algonode.cloud", "https://betanet-idx.algonode.cloud"⟩),
    ("localnet", ⟨"http://localhost:4001", "http://localhost:8980"⟩)]

/-- The names of the networks. -/
def networks : List String := networkEndpoints.map (·.1)

def Endpoints.url (endpoints : Endpoints) : Upstream → String
  | .algod => endpoints.algod
  | .indexer => endpoints.indexer

def ConfigArgs.url (args : ConfigArgs) : Upstream → String
  | .algod => args.algodUrl
  | .indexer => args.indexerUrl

/-- The variable with the URL of an upstream. -/
def Upstream.urlVariable : Upstream → String
  | .algod => "ALGORAND_ALGOD_URL"
  | .indexer => "ALGORAND_INDEXER_URL"

/-- `str.lower`, on characters, with what the start relies on.  Beyond ASCII it follows tables of
    its own, and the small letter of a capital sigma depends on the word it stands in. -/
structure StrLower where
  lower : List Char → List Char
  /-- In ASCII the letters become small, and all else is kept. -/
  ascii (cs : List Char) : (∀ c ∈ cs, c.toNat < 128) → lower cs = cs.map Char.toLower
  ascii_head (c : Char) (cs : List Char) : c.toNat < 128 →
    (lower (c :: cs)).head? = some c.toLower
  /-- A slash is no part of a word. -/
  slash (xs ys : List Char) : lower (xs ++ '/' :: ys) = lower xs ++ '/' :: lower ys
  /-- Nothing else becomes a slash. -/
  last (cs : List Char) : (lower cs).getLast? = some '/' → cs.getLast? = some '/'

/-- `s.rstrip("/")`. -/
def rstripSlash (s : String) : String := String.ofList (s.toList.rdropWhile (· == '/'))

/-- `a or b`, for a string `a` that may be `None`. -/
def strOr (a : Option String) (b : String) : String :=
  match a with
  | none => b
  | some s => if s = "" then b else s

/-- `name in url.lower()`. -/
def mentions (str : StrLower) (url name : String) : Bool :=
  decide (name.toList <:+: str.lower url.toList)

/-- What a warning of a config mismatch tells: the URL of `role` mentions `other`. -/
structure Mismatch where
  network : String
  role : Upstream
  other : String
  url : String
  deriving DecidableEq

/-- A `ValueError` with its message. -/
structure StartError where
  message : String
  deriving DecidableEq

/-- What a start leaves behind. -/
structure Started where
  config : AlgorandConfig
  timeoutS : PyFloat
  warnings : List Mismatch

/-- The network on the label. -/
def networkOf (str : StrLower) (args : ConfigArgs) (env : Environ) : String :=
  args.network.getD
    (String.ofList (str.lower ((env "ALGORAND_NETWORK").getD "mainnet").toList))

/-- `float(os.environ.get("ALGORAND_TIMEOUT_S", "30"))`, unless it is given. -/
def timeoutOf (args : ConfigArgs) (env : Environ) : Except StartError PyFloat :=
  match args.timeoutS with
  | some timeout => .ok timeout
  | none =>
    let text := (env "ALGORAND_TIMEOUT_S").getD "30"
    (Text.float text).mapError fun _ =>
      ⟨"could not convert string to float: " ++ Json.strRepr text⟩

/-- `(self.…_url or os.environ.get(…) or default).rstrip("/")`. -/
def urlOf (args : ConfigArgs) (env : Environ) (endpoints : Endpoints) (role : Upstream) : String :=
  rstripSlash (strOr (some (args.url role)) (strOr (env role.urlVariable) (endpoints.url role)))

/-- The mismatches of a configuration, which are warned about. -/
def mismatches (str : StrLower) (config : AlgorandConfig) : List Mismatch :=
  [Upstream.algod, Upstream.indexer].flatMap fun role =>
    (networks.filter fun other =>
      other != config.network && mentions str (config.baseUrl role) other).map fun other =>
        ⟨config.network, role, other, config.baseUrl role⟩

/-- `unknown ALGORAND_NETWORK …`. -/
def unknownNetwork (network : String) : StartError :=
  ⟨"unknown ALGORAND_NETWORK " ++ Json.strRepr network ++ "; expected one of " ++
    Json.pyRepr (.arr ((networks.insertionSort (· ≤ ·)).map .str)) ++
    ". Refusing to start rather than guess which chain to read."⟩

/-- The configuration on a known network. -/
def configOf (str : StrLower) (args : ConfigArgs) (env : Environ) (endpoints : Endpoints) :
    AlgorandConfig where
  algodUrl := urlOf args env endpoints .algod
  indexerUrl := urlOf args env endpoints .indexer
  network := networkOf str args env

/-- `AlgorandConfig.__init__` and `__post_init__`. -/
def AlgorandConfig.init (str : StrLower) (args : ConfigArgs) (env : Environ) :
    Except StartError Started := do
  -- The factories of the fields come before `__post_init__`.
  let timeoutS ← timeoutOf args env
  match networkEndpoints.lookup (networkOf str args env) with
  | none => throw (unknownNetwork (networkOf str args env))
  | some endpoints =>
    let config := configOf str args env endpoints
    return ⟨config, timeoutS, mismatches str config⟩

variable {str : StrLower} {args : ConfigArgs} {env : Environ} {started : Started}

/-- **When the service starts**: when the timeout is a number and the network is known. -/
theorem init_eq_ok_iff :
    AlgorandConfig.init str args env = .ok started ↔
      ∃ endpoints timeoutS, timeoutOf args env = .ok timeoutS ∧
        networkEndpoints.lookup (networkOf str args env) = some endpoints ∧
        started = ⟨configOf str args env endpoints, timeoutS,
          mismatches str (configOf str args env endpoints)⟩ := by
  unfold AlgorandConfig.init
  dsimp only
  rw [bind_eq_ok]
  constructor
  · rintro ⟨timeoutS, htimeout, hrest⟩
    cases hlookup : networkEndpoints.lookup (networkOf str args env) with
    | none =>
      rw [hlookup] at hrest
      cases hrest
    | some endpoints =>
      rw [hlookup] at hrest
      exact ⟨endpoints, timeoutS, htimeout, rfl, (Except.ok.inj hrest).symm⟩
  · rintro ⟨endpoints, timeoutS, htimeout, hlookup, rfl⟩
    refine ⟨timeoutS, htimeout, ?_⟩
    rw [hlookup]
    rfl

theorem mem_of_lookup_endpoints {network : String} {endpoints : Endpoints}
    (h : networkEndpoints.lookup network = some endpoints) :
    (network, endpoints) ∈ networkEndpoints := by
  obtain ⟨before, after, heq, -⟩ := List.lookup_eq_some_iff.mp h
  rw [heq]
  exact List.mem_append_right before List.mem_cons_self

/-! ### Base URLs -/

theorem rstripSlash_getLast? (s : String) : (rstripSlash s).toList.getLast? ≠ some '/' := by
  unfold rstripSlash
  rw [String.toList_ofList]
  intro hlast
  obtain ⟨hne, heq⟩ := List.mem_getLast?_eq_getLast hlast
  have hnot : ¬ ((s.toList.rdropWhile (· == '/')).getLast hne == '/') = true :=
    List.rdropWhile_last_not _ _ hne
  rw [← heq] at hnot
  exact hnot rfl

/-- Nothing sets the URL of the upstream. -/
def Unset (args : ConfigArgs) (env : Environ) (role : Upstream) : Prop :=
  args.url role = "" ∧ ∀ value, env role.urlVariable = some value → value = ""

/-- Where the base URL of an upstream comes from: the argument comes before the environment, and
    the environment before the table. -/
inductive BaseFrom (args : ConfigArgs) (env : Environ) (network : String) (role : Upstream) :
    String → Prop
  | argument (set : args.url role ≠ "") :
    BaseFrom args env network role (rstripSlash (args.url role))
  | environ (value : String) (noArgument : args.url role = "")
    (set : env role.urlVariable = some value) (nonempty : value ≠ "") :
    BaseFrom args env network role (rstripSlash value)
  | table (endpoints : Endpoints) (unset : Unset args env role)
    (known : (network, endpoints) ∈ networkEndpoints) :
    BaseFrom args env network role (endpoints.url role)

/-- The URLs of the table do not end in a slash. -/
theorem rstripSlash_endpoint {network : String} {endpoints : Endpoints}
    (h : (network, endpoints) ∈ networkEndpoints) (role : Upstream) :
    rstripSlash (endpoints.url role) = endpoints.url role := by
  have hall : ∀ entry ∈ networkEndpoints, ∀ role ∈ [Upstream.algod, .indexer],
      rstripSlash (entry.2.url role) = entry.2.url role := by decide +kernel
  exact hall _ h role (by cases role <;> decide)

theorem strOr_of_ne {s : String} (h : s ≠ "") (b : String) : strOr (some s) b = s := if_neg h

theorem baseFrom_urlOf {endpoints : Endpoints} {network : String}
    (h : (network, endpoints) ∈ networkEndpoints) (role : Upstream) :
    BaseFrom args env network role (urlOf args env endpoints role) := by
  unfold urlOf
  by_cases hargument : args.url role = ""
  · have hskip : ∀ b, strOr (some (args.url role)) b = b := fun b => if_pos hargument
    rw [hskip]
    cases hvariable : env role.urlVariable with
    | none =>
      have hunset : Unset args env role := by
        refine ⟨hargument, fun value hvalue => ?_⟩
        rw [hvariable] at hvalue
        cases hvalue
      show BaseFrom args env network role (rstripSlash (endpoints.url role))
      rw [rstripSlash_endpoint h]
      exact .table endpoints hunset h
    | some value =>
      by_cases hvalue : value = ""
      · have hunset : Unset args env role := by
          refine ⟨hargument, fun value' hvalue' => ?_⟩
          rw [hvariable] at hvalue'
          exact (Option.some.inj hvalue') ▸ hvalue
        have hskip' : ∀ b, strOr (some value) b = b := fun b => if_pos hvalue
        rw [hskip', rstripSlash_endpoint h]
        exact .table endpoints hunset h
      · rw [strOr_of_ne hvalue]
        exact .environ value hargument hvariable hvalue
  · rw [strOr_of_ne hargument]
    exact .argument hargument

/-! ### What the routes ask for -/

/-- An operation that calls a read method, or calls nothing. -/
def ReadOp (entry : (op : Op) × op.Answer) : Prop := ∀ asked ∈ callOf entry, asked.1.IsRead

section

variable {α β : Type} {call : Call}

theorem readOp_upstream (h : call.IsRead) (outcome : Outcome) :
    ReadOp ⟨.upstream call, outcome⟩ := by
  intro asked hasked
  obtain rfl := Option.some.inj hasked
  exact h

theorem reads_upstream (h : call.IsRead) : Performs ReadOp (upstream call) := by
  intro log result hcourse entry hentry
  obtain ⟨outcome, rfl, -⟩ := course_upstream_iff.mp hcourse
  obtain rfl := List.mem_singleton.mp hentry
  exact readOp_upstream h outcome

theorem reads_askUpstream_bind {f : Outcome → Route α} (h : call.IsRead)
    (hf : ∀ outcome, Performs ReadOp (f outcome)) : Performs ReadOp (askUpstream call >>= f) := by
  intro log result hcourse
  obtain ⟨outcome, rest, rfl, hrest⟩ := course_askUpstream_bind_iff.mp hcourse
  rw [List.forall_mem_cons]
  exact ⟨readOp_upstream h outcome, hf outcome rest result hrest⟩

theorem reads_getOrFetch {kind key : String} (h : call.IsRead) :
    Performs ReadOp (getOrFetch kind key (upstream call)) := by
  intro log result hcourse entry hentry asked hasked
  have hmem : asked ∈ callsOf log := List.mem_filterMap.mpr ⟨entry, hentry, hasked⟩
  -- The one call there can be is this one.
  cases fetched_of_course hcourse with
  | hit value => cases hmem
  | failed exc =>
    obtain rfl := List.mem_singleton.mp hmem
    exact h
  | stored payload =>
    obtain rfl := List.mem_singleton.mp hmem
    exact h

theorem reads_validated {x : Except Raised α} {f : α → Route β}
    (hf : ∀ a, Performs ReadOp (f a)) : Performs ReadOp (validated x >>= f) :=
  Performs.validated fun a _ => hf a

theorem reads_probe {mapper : Json → Except PyError (List SearchItem)} (h : call.IsRead) :
    Performs ReadOp (probe call mapper) := by
  apply reads_askUpstream_bind h
  intro outcome
  cases outcome with
  | ok payload => exact Performs.ofExcept
  | error exc => exact Performs.pure

theorem reads_askAssets (ids : List (Key × Json)) : Performs ReadOp (askAssets ids) := by
  induction ids with
  | nil => exact Performs.pure
  | cons entry ids ih =>
    refine reads_askUpstream_bind (fun _ _ => nofun) fun outcome => ?_
    exact Performs.bind ih fun outcomes => Performs.pure

theorem reads_getAddressTransactions (sha512_256 : List UInt8 → Digest) (address : String)
    (limit : Int) (nextToken afterTime beforeTime txType : Option String) (assetId : Option Int) :
    Performs ReadOp (getAddressTransactions sha512_256 address limit nextToken afterTime beforeTime
      txType assetId) := by
  refine reads_validated fun _ => ?_
  have hrest : Performs ReadOp (do
      let payload ← upstream
        (.accountTransactions address limit nextToken afterTime beforeTime txType assetId)
      let members ← mapped payload.asDict
      mapped (mapTransactionList payload (members.get "current-round"))) := by
    refine Performs.bind (reads_upstream fun _ _ => nofun) fun payload => ?_
    exact Performs.bind Performs.ofExcept fun members => Performs.ofExcept
  cases assetId with
  | none => exact hrest
  | some id => exact reads_validated fun _ => hrest

theorem reads_getAddressTokenBalances (sha512_256 : List UInt8 → Digest) (address : String)
    (limit : Int) (nextToken : Option String) (resolve : Bool) :
    Performs ReadOp (getAddressTokenBalances sha512_256 address limit nextToken resolve) := by
  refine reads_validated fun _ => ?_
  refine Performs.bind (reads_upstream fun _ _ => nofun) fun payload => ?_
  refine Performs.bind ?_ fun params => Performs.ofExcept
  cases resolve with
  | false => exact Performs.pure
  | true =>
    refine Performs.bind Performs.ofExcept fun ids => ?_
    exact Performs.bind (reads_askAssets _) fun outcomes => Performs.ofExcept

theorem reads_getLatestBlock : Performs ReadOp getLatestBlock := by
  refine Performs.bind (reads_upstream fun _ _ => nofun) fun status => ?_
  refine Performs.bind Performs.ofExcept fun members => ?_
  dsimp only
  split_ifs
  · exact Performs.ofExcept
  · refine Performs.bind (reads_upstream fun _ _ => nofun) fun payload => ?_
    exact Performs.bind Performs.ofExcept fun block => Performs.pure

theorem reads_getTokenHolders (assetId limit : Int) (nextToken : Option String) (resolve : Bool) :
    Performs ReadOp (getTokenHolders assetId limit nextToken resolve) := by
  refine reads_validated fun _ => ?_
  refine Performs.bind (reads_upstream fun _ _ => nofun) fun payload => ?_
  refine Performs.bind ?_ fun decimals => Performs.ofExcept
  cases resolve with
  | false => exact Performs.pure
  | true =>
    refine reads_askUpstream_bind (fun _ _ => nofun) fun outcome => ?_
    cases outcome with
    | ok assetPayload => exact Performs.ofExcept
    | error exc => exact Performs.pure

/-- The routes that keep one payload in the cache. -/
theorem reads_cached {kind key : String} {f : Json → Route α} (h : call.IsRead)
    (hf : ∀ payload, Performs ReadOp (f payload)) :
    Performs ReadOp (getOrFetch kind key (upstream call) >>= f) :=
  Performs.bind (reads_getOrFetch h) hf

theorem reads_search (keyText : KeyText) (q : String) (limit : Int) :
    Performs ReadOp (search keyText q limit) := by
  unfold search
  dsimp only
  cases classifyQuery (Text.strip q) with
  | none =>
    refine Performs.bind (Performs.bind (reads_upstream fun _ _ => nofun)
      fun _ => Performs.ofExcept) fun units => ?_
    split_ifs
    · exact Performs.bind (Performs.bind (reads_upstream fun _ _ => nofun)
        fun _ => Performs.ofExcept) fun names => Performs.pure
    · exact Performs.pure
  | some kind =>
    cases kind with
    | address => exact Performs.bind (reads_probe fun _ _ => nofun) fun _ => Performs.pure
    | transaction => exact Performs.bind (reads_probe fun _ _ => nofun) fun _ => Performs.pure
    | numeric =>
      refine Performs.bind Performs.ofExcept fun numeric => ?_
      cases validateUint64 (.int numeric) "id" with
      | error e => exact Performs.pure
      | ok m =>
        refine Performs.bind (reads_probe fun _ _ => nofun) fun tokens => ?_
        exact Performs.bind (reads_probe fun _ _ => nofun) fun contracts => Performs.pure

theorem reads_stats (config : AlgorandConfig) : Performs ReadOp (stats config) := by
  refine Performs.bind (reads_upstream fun _ _ => nofun) fun status => ?_
  refine Performs.bind ?_ fun _ => Performs.ofExcept
  refine reads_askUpstream_bind (fun _ _ => nofun) fun nodeRead => ?_
  exact reads_askUpstream_bind (fun _ _ => nofun) fun idxRead => Performs.ofExcept

/-- **The routes call read methods only.** -/
theorem reads_respond (sha512_256 : List UInt8 → Digest) (keyText : KeyText)
    (config : AlgorandConfig) (request : ApiRequest) :
    Performs ReadOp (respond sha512_256 keyText config request) := by
  cases request with
  | stats => exact (reads_stats config).map
  | address address live =>
    refine Performs.map (reads_validated fun _ => ?_)
    exact Performs.bind (reads_upstream fun _ _ => nofun) fun _ => Performs.ofExcept
  | addressTransactions address limit nextToken afterTime beforeTime txType assetId =>
    exact (reads_getAddressTransactions sha512_256 address limit nextToken afterTime beforeTime
      txType assetId).map
  | addressTokenBalances address limit nextToken resolve =>
    exact (reads_getAddressTokenBalances sha512_256 address limit nextToken resolve).map
  | transaction txid =>
    refine Performs.map (Performs.bind Performs.ofExcept fun _ => ?_)
    exact reads_cached (fun _ _ => nofun) fun _ => Performs.ofExcept
  | block =>
    refine Performs.map (reads_validated fun _ => ?_)
    exact reads_cached (fun _ _ => nofun) fun _ => Performs.ofExcept
  | latestBlock => exact reads_getLatestBlock.map
  | token =>
    refine Performs.map (reads_validated fun _ => ?_)
    exact reads_cached (fun _ _ => nofun) fun _ => Performs.ofExcept
  | tokenHolders assetId limit nextToken resolve =>
    exact (reads_getTokenHolders assetId limit nextToken resolve).map
  | smartContract =>
    refine Performs.map (reads_validated fun _ => ?_)
    exact reads_cached (fun _ _ => nofun) fun _ => Performs.ofExcept
  | search q limit => exact (reads_search keyText q limit).map

/-- What a route calls is what its exchanges are of. -/
theorem isRead_of_refined {route : Route α} {config : AlgorandConfig} {exchanges : List Exchange}
    {result : Except ServiceError α} (hroute : Performs ReadOp route)
    (h : Refined config route exchanges result) : ∀ x ∈ exchanges, x.call.IsRead := by
  have hare : ∀ (log : RouteLog) (exchanges : List Exchange), AreExchanges config log exchanges →
      (∀ entry ∈ log, ReadOp entry) → ∀ x ∈ exchanges, x.call.IsRead := by
    intro log exchanges hare hlog x hx
    have hmem : (x.call, x.ending config) ∈
        (callsOf log).map fun asked => (asked.1, Except.ok asked.2) := by
      unfold AreExchanges at hare
      rw [← hare]
      exact List.mem_map_of_mem hx
    obtain ⟨asked, hasked, heq⟩ := List.mem_map.mp hmem
    obtain ⟨entry, hentry, hcall⟩ := List.mem_filterMap.mp hasked
    have hread := hlog entry hentry asked hcall
    rwa [(Prod.mk.inj heq).1] at hread
  cases h with
  | ended log course are => exact hare log exchanges are (hroute log result course)
  | escaped log earlier x next e reached are exchanges_eq ending result_eq =>
    -- The call that was cut short is one of a course in which it fails.
    obtain ⟨rest, result', hcourse⟩ := exists_course_of_cut reached ⟨false, "", none, ""⟩
    have hops := List.forall_mem_append.mp (hroute _ _ hcourse)
    rw [exchanges_eq, List.forall_mem_append]
    refine ⟨hare log earlier are hops.1, fun y hy => ?_⟩
    obtain rfl := List.mem_singleton.mp hy
    exact hops.2 _ List.mem_cons_self _ rfl

end

/-- The path of a read method is one slash and a name. -/
theorem Call.path_starts {call : Call} (h : call.IsRead) :
    ∃ c rest, call.request.path.toList = '/' :: c :: rest ∧ (c = 'v' ∨ c = 'h') := by
  rw [Call.path_eq h, String.toList_ofList]
  cases call with
  | indexer path params => exact absurd rfl (h path params)
  | indexerHealth => exact ⟨'h', _, rfl, .inr rfl⟩
  | _ => exact ⟨'v', _, rfl, .inl rfl⟩

/-! ### The network of a request -/

/-- What an attempt has to do with the network on the label. -/
structure OnNetwork (str : StrLower) (args : ConfigArgs) (env : Environ) (started : Started)
    (sent : Sent) : Prop where
  /-- Its URL is below the base URL of its upstream, -/
  below : ∃ rest, sent.url.toList =
    (started.config.baseUrl sent.upstream).toList ++ '/' :: rest
  /-- which was set, or is the one of the network. -/
  source : BaseFrom args env started.config.network sent.upstream
    (started.config.baseUrl sent.upstream)
  /-- Where no URL was set, it is that of no node of another network, and nothing is warned
      about. -/
  apart : Unset args env sent.upstream →
    (∀ other endpoints, (other, endpoints) ∈ networkEndpoints → other ≠ started.config.network →
      ∀ role, ¬ (endpoints.url role).toList <+: str.lower sent.url.toList) ∧
    ∀ warning ∈ started.warnings, warning.role ≠ sent.upstream
  /-- Where one was set, a node with the name of another network was warned about. -/
  warned : ∀ other endpoints, (other, endpoints) ∈ networkEndpoints →
    other ≠ started.config.network → ∀ role, mentions str (endpoints.url role) other = true →
      (endpoints.url role).toList <+: str.lower sent.url.toList →
      ⟨started.config.network, sent.upstream, other, started.config.baseUrl sent.upstream⟩ ∈
        started.warnings

theorem mem_mismatches_iff {config : AlgorandConfig} {warning : Mismatch} :
    warning ∈ mismatches str config ↔
      warning.other ∈ networks ∧ warning.other ≠ config.network ∧
        mentions str (config.baseUrl warning.role) warning.other = true ∧
        warning.network = config.network ∧ warning.url = config.baseUrl warning.role := by
  have hrole : ∀ role : Upstream, role ∈ [Upstream.algod, Upstream.indexer] := by
    intro role
    cases role <;> decide
  unfold mismatches
  simp only [List.mem_flatMap, List.mem_map, List.mem_filter, bne_iff_ne, Bool.and_eq_true]
  constructor
  · rintro ⟨role, -, other, ⟨hother, hne, hmentions⟩, rfl⟩
    exact ⟨hother, hne, hmentions, rfl, rfl⟩
  · rintro ⟨hother, hne, hmentions, hnetwork, hurl⟩
    refine ⟨warning.role, hrole _, warning.other, ⟨hother, hne, hmentions⟩, ?_⟩
    rw [← hnetwork, ← hurl]

/-- What is checked of the table: the URLs are in lower case, mention no other network, are no
    beginnings of URLs of another network, and a slash in them stands next to another one. -/
structure TableUrl (str : StrLower) (network : String) (url : String) : Prop where
  lower : str.lower url.toList = url.toList
  named : ∀ other ∈ networks, other ≠ network → mentions str url other = false
  apart : ∀ entry ∈ networkEndpoints, entry.1 ≠ network → ∀ role ∈ [Upstream.algod, .indexer],
    ¬ url.toList <+: (entry.2.url role).toList
  slashes : ∀ n ∈ List.range url.toList.length, (url.toList.drop n).head? = some '/' →
    (url.toList.drop (n + 1)).head? = some '/' ∨ (url.toList.take n).getLast? = some '/'

theorem tableUrl_of_mem (str : StrLower) {network : String} {endpoints : Endpoints}
    (h : (network, endpoints) ∈ networkEndpoints) (role : Upstream) :
    TableUrl str network (endpoints.url role) := by
  have hrole : role ∈ [Upstream.algod, Upstream.indexer] := by cases role <;> decide
  have hascii : ∀ entry ∈ networkEndpoints, ∀ role ∈ [Upstream.algod, .indexer],
      ((entry.2.url role).toList.all fun c => c.toNat < 128) = true := by decide +kernel
  have hsmall : ∀ entry ∈ networkEndpoints, ∀ role ∈ [Upstream.algod, .indexer],
      (entry.2.url role).toList.map Char.toLower = (entry.2.url role).toList := by decide +kernel
  have hnamed : ∀ entry ∈ networkEndpoints, ∀ role ∈ [Upstream.algod, .indexer],
      ∀ other ∈ networks, other ≠ entry.1 → ¬ other.toList <:+: (entry.2.url role).toList := by
    decide +kernel
  have hapart : ∀ entry ∈ networkEndpoints, ∀ role ∈ [Upstream.algod, .indexer],
      ∀ entry' ∈ networkEndpoints, entry'.1 ≠ entry.1 → ∀ role' ∈ [Upstream.algod, .indexer],
        ¬ (entry.2.url role).toList <+: (entry'.2.url role').toList := by decide +kernel
  have hslashes : ∀ entry ∈ networkEndpoints, ∀ role ∈ [Upstream.algod, .indexer],
      ∀ n ∈ List.range (entry.2.url role).toList.length,
        ((entry.2.url role).toList.drop n).head? = some '/' →
          ((entry.2.url role).toList.drop (n + 1)).head? = some '/' ∨
            ((entry.2.url role).toList.take n).getLast? = some '/' := by decide +kernel
  have hlower : str.lower (endpoints.url role).toList = (endpoints.url role).toList :=
    (str.ascii _ (by simpa using hascii _ h role hrole)).trans (hsmall _ h role hrole)
  refine ⟨hlower, fun other hother hne => ?_, hapart _ h role hrole, hslashes _ h role hrole⟩
  rw [mentions, hlower, decide_eq_false_iff_not]
  exact hnamed _ h role hrole other hother hne

variable {network : String} {endpoints : Endpoints}

/-- A URL of the table that begins a longer URL begins its base. -/
theorem prefix_base_of_prefix (h : (network, endpoints) ∈ networkEndpoints) (role : Upstream)
    {base : String} (hbase : base.toList.getLast? ≠ some '/') {c : Char} {rest : List Char}
    (hc : c ≠ '/')
    (hstarts : (endpoints.url role).toList <+: str.lower base.toList ++ '/' :: c :: rest) :
    (endpoints.url role).toList <+: str.lower base.toList := by
  rcases List.prefix_or_prefix_of_prefix hstarts
    (List.prefix_append (str.lower base.toList) ('/' :: c :: rest)) with hshort | hlong
  · exact hshort
  · obtain ⟨after, heq⟩ := hlong
    rw [← heq] at hstarts
    have hafter : after <+: '/' :: c :: rest := (List.prefix_append_right_inj _).mp hstarts
    cases after with
    | nil =>
      rw [← heq, List.append_nil]
    | cons slash after =>
      -- The base ends at a slash of the table's URL, and there is one beside it.
      obtain ⟨rfl, hnext⟩ := List.cons_prefix_cons.mp hafter
      have hslashes := (tableUrl_of_mem str h role).slashes (str.lower base.toList).length
      rw [← heq, List.drop_left, List.take_left, ← List.drop_drop, List.drop_left] at hslashes
      rcases hslashes (List.mem_range.mpr (by simp)) rfl with hbeside | hlast
      · cases after with
        | nil => cases hbeside
        | cons d after =>
          obtain ⟨rfl, -⟩ := List.cons_prefix_cons.mp hnext
          exact absurd (Option.some.inj hbeside) hc
      · exact absurd (str.last _ hlast) hbase

theorem BaseFrom.getLast? {role : Upstream} {base : String}
    (h : BaseFrom args env network role base) : base.toList.getLast? ≠ some '/' := by
  cases h with
  | argument set => exact rstripSlash_getLast? _
  | environ value noArgument set nonempty => exact rstripSlash_getLast? _
  | table endpoints unset known =>
    rw [← rstripSlash_endpoint known role]
    exact rstripSlash_getLast? _

/-- Where nothing is set, the base is in the table. -/
theorem BaseFrom.of_unset {role : Upstream} {base : String}
    (h : BaseFrom args env network role base) (hunset : Unset args env role) :
    ∃ endpoints, (network, endpoints) ∈ networkEndpoints ∧ base = endpoints.url role := by
  cases h with
  | argument set => exact absurd hunset.1 set
  | environ value noArgument set nonempty => exact absurd (hunset.2 value set) nonempty
  | table endpoints unset known => exact ⟨endpoints, known, rfl⟩

/-- A base that begins with a URL mentions what that mentions. -/
theorem mentions_of_prefix (h : (network, endpoints) ∈ networkEndpoints) {role : Upstream}
    {base name : String} (hstarts : (endpoints.url role).toList <+: str.lower base.toList)
    (hmentions : mentions str (endpoints.url role) name = true) :
    mentions str base name = true := by
  unfold mentions at hmentions ⊢
  rw [(tableUrl_of_mem str h role).lower, decide_eq_true_eq] at hmentions
  rw [decide_eq_true_eq]
  exact hmentions.trans hstarts.isInfix

/-- One attempt of a read method. -/
theorem onNetwork_of_isRead (hknown : (networkOf str args env, endpoints) ∈ networkEndpoints)
    (timeoutS : PyFloat) {call : Call} (hread : call.IsRead) (attempt : Attempt) :
    OnNetwork str args env
      ⟨configOf str args env endpoints, timeoutS, mismatches str (configOf str args env endpoints)⟩
      ⟨call.request.upstream, requestUrl (configOf str args env endpoints) call.request,
        attempt⟩ := by
  obtain ⟨c, rest, hpath, hc⟩ := Call.path_starts hread
  set config := configOf str args env endpoints with hconfig
  set role := call.request.upstream with hrole
  have hurl : (requestUrl config call.request).toList =
      (config.baseUrl role).toList ++ '/' :: c :: (rest ++ queryPart call.request.params) := by
    unfold requestUrl getUrl
    rw [String.toList_ofList, hpath, List.append_assoc]
    rfl
  have hsource : BaseFrom args env (networkOf str args env) role (config.baseUrl role) := by
    have hbase : config.baseUrl role = urlOf args env endpoints role := by
      rw [hconfig]
      cases role <;> rfl
    rw [hbase]
    exact baseFrom_urlOf hknown role
  -- What begins the URL begins its base.
  have hbegins : ∀ other nodes, (other, nodes) ∈ networkEndpoints → ∀ asked,
      (nodes.url asked).toList <+: str.lower (requestUrl config call.request).toList →
        (nodes.url asked).toList <+: str.lower (config.baseUrl role).toList := by
    intro other nodes hother asked hstarts
    have hsmall : c.toNat < 128 ∧ c.toLower = c ∧ c ≠ '/' := by
      rcases hc with rfl | rfl
      · decide
      · decide
    have hhead := str.ascii_head c (rest ++ queryPart call.request.params) hsmall.1
    rw [hsmall.2.1, List.head?_eq_some_iff] at hhead
    obtain ⟨tail, htail⟩ := hhead
    rw [hurl, str.slash, htail] at hstarts
    exact prefix_base_of_prefix hother asked hsource.getLast? hsmall.2.2 hstarts
  refine ⟨⟨_, hurl⟩, hsource, fun hunset => ?_, ?_⟩
  · obtain ⟨own, hown, hbase⟩ := hsource.of_unset hunset
    have htable := tableUrl_of_mem str hown role
    refine ⟨fun other nodes hother hne asked hstarts => ?_, fun warning hwarning heq => ?_⟩
    · have hbegin := hbegins other nodes hother asked hstarts
      rw [hbase, htable.lower] at hbegin
      refine (tableUrl_of_mem str hother asked).apart _ hown hne.symm role ?_ hbegin
      cases role <;> decide
    · obtain ⟨hother, hne, hmentions, -, -⟩ := mem_mismatches_iff.mp hwarning
      have hnot := htable.named warning.other hother hne
      rw [heq] at hmentions
      exact Bool.false_ne_true (hnot.symm.trans (hbase ▸ hmentions))
  · intro other nodes hother hne asked hmentions hstarts
    have hbegin := hbegins other nodes hother asked hstarts
    refine mem_mismatches_iff.mpr ⟨?_, hne, mentions_of_prefix hother hbegin hmentions, rfl, rfl⟩
    exact List.mem_map_of_mem (f := (·.1)) hother

theorem healthReport_network {config : AlgorandConfig}
    {nodeRead idxRead : Except AlgorandError Json} {report : HealthReport}
    (h : healthReport config nodeRead idxRead = .ok report) : report.network = config.network := by
  obtain ⟨node, -, hrest⟩ := bind_eq_ok.mp h
  obtain ⟨idx, -, hreport⟩ := bind_eq_ok.mp hrest
  cases hreport
  rfl

/-- The stats report the network of the configuration. -/
theorem stats_network {config : AlgorandConfig} {log : RouteLog} {body : Stats}
    (h : Course (stats config) log (.ok body)) : body.network = config.network := by
  rcases course_upstream_bind_iff.mp h with ⟨exc, -, hend⟩ | ⟨status, rest, -, hrest⟩
  · cases hend
  · rcases course_bind_iff.mp hrest with ⟨e, -, hend⟩ | ⟨reads, last, report, -, hhealth, hstats⟩
    · cases hend
    · obtain ⟨nodeRead, _, -, hindexer⟩ := course_askUpstream_bind_iff.mp hhealth
      obtain ⟨idxRead, _, -, hreport⟩ := course_askUpstream_bind_iff.mp hindexer
      obtain ⟨-, hreport⟩ := course_ofExcept_iff.mp hreport
      obtain ⟨-, hbody⟩ := course_ofExcept_iff.mp hstats
      have hnetwork : report.network = config.network := by
        cases hread : healthReport config nodeRead idxRead with
        | error e =>
          rw [hread] at hreport
          cases hreport
        | ok report' =>
          rw [hread] at hreport
          cases hreport
          exact healthReport_network hread
      cases hmembers : status.asDict with
      | error e =>
        unfold mapStats at hbody
        rw [hmembers] at hbody
        cases hbody
      | ok members =>
        unfold mapStats at hbody
        rw [hmembers] at hbody
        cases hbody
        exact hnetwork

/-! ### The whole service -/

/-- The attempts of `_get` for a read method. -/
theorem performs_get_onNetwork (hstart : AlgorandConfig.init str args env = .ok started)
    {call : Call} (hread : call.IsRead) :
    Performs (fun entry => ∀ sent ∈ sentBy entry, OnNetwork str args env started sent)
      (get started.config call.request) := by
  obtain ⟨endpoints, timeoutS, -, hlookup, rfl⟩ := init_eq_ok_iff.mp hstart
  intro log result hcourse entry hentry sent hsent
  obtain ⟨x, rfl, hx, -⟩ := course_get_spec hcourse
  have hmem : sent ∈ sentIn log := List.mem_filterMap.mpr ⟨entry, hentry, hsent⟩
  rw [hx] at hmem
  obtain ⟨attempt, -, rfl⟩ := List.mem_map.mp hmem
  exact onNetwork_of_isRead (mem_of_lookup_endpoints hlookup) timeoutS hread attempt

/-- The attempts of `/readyz`, and the network that it reports. -/
theorem readyz_onNetwork (hstart : AlgorandConfig.init str args env = .ok started)
    {log : Log HttpOp.Answer} {result : Except PyError Readiness}
    (h : Course (readyz started.config) log result) :
    (∀ sent ∈ sentIn log, OnNetwork str args env started sent) ∧
      ∀ body, result = .ok body → body.health.network = started.config.network := by
  constructor
  · have hperforms : Performs
        (fun entry => ∀ sent ∈ sentBy entry, OnNetwork str args env started sent)
        (readyz started.config) := by
      refine Performs.bind (Performs.bind ?_ fun nodeRead => Performs.bind ?_ fun idxRead =>
        Performs.ofExcept) fun _ => Performs.pure
      · exact performs_get_onNetwork hstart fun _ _ => nofun
      · exact performs_get_onNetwork hstart fun _ _ => nofun
    intro sent hsent
    obtain ⟨entry, hentry, hsent⟩ := List.mem_filterMap.mp hsent
    exact hperforms log result h entry hentry sent hsent
  · rintro body rfl
    rcases course_bind_iff.mp h with ⟨e, -, hend⟩ | ⟨first, rest, report, -, hhealth, hend⟩
    · cases hend
    · obtain ⟨-, hbody⟩ := course_pure_iff.mp hend
      obtain rfl := Except.ok.inj hbody
      rcases course_bind_iff.mp hhealth with ⟨e, -, hnode⟩ | ⟨_, _, nodeRead, -, -, hindexer⟩
      · cases hnode
      · rcases course_bind_iff.mp hindexer with ⟨e, -, hidx⟩ | ⟨_, _, idxRead, -, -, hreport⟩
        · cases hidx
        · obtain ⟨-, hreport⟩ := course_ofExcept_iff.mp hreport
          cases hread : healthReport started.config nodeRead idxRead with
          | error e =>
            rw [hread] at hreport
            cases hreport
          | ok report' =>
            rw [hread] at hreport
            cases hreport
            exact healthReport_network hread

/-- The attempts of an explorer route, and the network that the stats report. -/
theorem respond_onNetwork {sha512_256 : List UInt8 → Digest} {keyText : KeyText}
    (hstart : AlgorandConfig.init str args env = .ok started) {request : ApiRequest}
    {log : Log StackOp.Answer} {result : Except ServiceError ApiResponse}
    (h : Course (stack started.config (respond sha512_256 keyText started.config request)) log
      result) :
    (∀ sent ∈ sentOf log, OnNetwork str args env started sent) ∧
      ∀ body, result = .ok (.stats body) → body.network = started.config.network := by
  obtain ⟨endpoints, timeoutS, -, hlookup, rfl⟩ := init_eq_ok_iff.mp hstart
  have hknown := mem_of_lookup_endpoints hlookup
  obtain ⟨exchanges, hsent, hrefined⟩ := stack_refines h
  refine ⟨fun sent hmem => ?_, fun body hbody => ?_⟩
  · rw [hsent] at hmem
    obtain ⟨x, hx, hmem⟩ := List.mem_flatMap.mp hmem
    obtain ⟨attempt, -, rfl⟩ := List.mem_map.mp hmem
    exact onNetwork_of_isRead hknown timeoutS
      (isRead_of_refined (reads_respond _ _ _ request) hrefined x hx) attempt
  · subst hbody
    cases hrefined with
    | ended routeLog course are =>
      cases request with
      | stats =>
        obtain ⟨result, hcourse, hresult⟩ := course_map_iff.mp course
        cases result with
        | error e => cases hresult
        | ok body' =>
          cases hresult
          exact stats_network hcourse
      | _ =>
        obtain ⟨result, -, hresult⟩ := course_map_iff.mp course
        cases result with
        | error e => cases hresult
        | ok body' => cases hresult
    | escaped routeLog earlier x next e reached are exchanges_eq ending result_eq =>
      cases result_eq

/-- **Every attempt is on the network of the label, or was warned about.**  Whatever the service was
    started with, and whatever the attempts come to: the URL that `session.get` is called with is
    below the base URL of its upstream, which was set or is the one of the network; where none was
    set, it is that of no node of another network; and where the one that was set is a node with the
    name of another network, that was warned about.  So it is for the explorer routes, whose stats
    report that network, and for `/readyz`.  The passthrough is left out: the dot segments of its
    path may climb out of a base URL's own path. -/
theorem requests_on_network {sha512_256 : List UInt8 → Digest} {keyText : KeyText}
    (hstart : AlgorandConfig.init str args env = .ok started) :
    (∀ (request : ApiRequest) (log : Log StackOp.Answer) (result : Except ServiceError ApiResponse),
      Course (stack started.config (respond sha512_256 keyText started.config request)) log result →
        (∀ sent ∈ sentOf log, OnNetwork str args env started sent) ∧
          ∀ body, result = .ok (.stats body) → body.network = started.config.network) ∧
      ∀ (log : Log HttpOp.Answer) (result : Except PyError Readiness),
        Course (readyz started.config) log result →
          (∀ sent ∈ sentIn log, OnNetwork str args env started sent) ∧
            ∀ body, result = .ok body → body.health.network = started.config.network :=
  ⟨fun _ _ _ => respond_onNetwork hstart, fun _ _ => readyz_onNetwork hstart⟩

/-- A testnet label on a mainnet node. -/
def mislabelled : Environ
  | "ALGORAND_NETWORK" => some "TestNet"
  | "ALGORAND_ALGOD_URL" => some "https://mainnet-api.algonode.cloud/"
  | _ => none

/-- What a start with it leaves behind. -/
def mislabelledStart : Started where
  config := {
    algodUrl := "https://mainnet-api.algonode.cloud"
    indexerUrl := "https://testnet-idx.algonode.cloud"
    network := "testnet" }
  timeoutS := .fin 10
  warnings := [⟨"testnet", .algod, "mainnet", "https://mainnet-api.algonode.cloud"⟩]

/-- `str.lower`, as far as ASCII goes. -/
def asciiLower : StrLower where
  lower cs := cs.map Char.toLower
  ascii _ _ := rfl
  ascii_head _ _ _ := rfl
  slash xs ys := List.map_append
  last cs h := by
    rw [List.getLast?_map, Option.map_eq_some_iff] at h
    obtain ⟨c, hc, hslash⟩ := h
    have halpha := Char.isLower_toLower_eq_isAlpha c
    rw [hslash] at halpha
    have hupper : ¬ c.isUpper := by
      intro hupper
      unfold Char.isAlpha at halpha
      rw [hupper] at halpha
      cases halpha
    rw [Char.toLower_eq_of_not_isUpper hupper] at hslash
    rw [hc, hslash]

/-- Upstreams that cannot be reached. -/
def unreachable : Script where
  attempt _ _ := .failed ⟨"connection reset"⟩
  jitter _ := noJitter

/-- One attempt for the stats, and for `/readyz` three at each upstream. -/
theorem requests_on_network_mislabelled :
    (∃ log result, Course (stack mislabelledStart.config (respond (fun _ => zeroKeyDigest)
        (fun _ => none) mislabelledStart.config .stats)) log result ∧ (sentOf log).length = 1 ∧
      ∀ sent ∈ sentOf log,
        OnNetwork asciiLower { timeoutS := some (.fin 10) } mislabelled mislabelledStart sent) ∧
    ∃ log body, Course (readyz mislabelledStart.config) log (.ok body) ∧
      (sentIn log).length = 6 ∧ body.health.network = "testnet" ∧
      ∀ sent ∈ sentIn log,
        OnNetwork asciiLower { timeoutS := some (.fin 10) } mislabelled mislabelledStart sent := by
  have hstart : AlgorandConfig.init asciiLower { timeoutS := some (.fin 10) } mislabelled =
      .ok mislabelledStart := by
    rfl
  obtain ⟨hrespond, hready⟩ :=
    @requests_on_network _ _ _ _ (fun _ => zeroKeyDigest) (fun _ => none) hstart
  have hstats := course_run (stack mislabelledStart.config (respond (fun _ => zeroKeyDigest)
    (fun _ => none) mislabelledStart.config .stats)) nothingThere ()
  have hreadyz := course_run (readyz mislabelledStart.config) (scripted unreachable) []
  obtain ⟨hsent, hbody⟩ := hready _ _ hreadyz
  exact ⟨⟨_, _, hstats, rfl, (hrespond _ _ _ hstats).1⟩, _, _, hreadyz, rfl, hbody _ rfl, hsent⟩

end Algorandscout
