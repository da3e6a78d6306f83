import FaultDrill.Proofs.Drill.Episode
import FaultDrill.Proofs.Drill.Line
import FaultDrill.Proofs.Steps
import FaultDrill.Proofs.Url.Extension

/-!
Whether a fault that the control plane has accepted is taken away again. That is
decided by what the drill gets to know: a route that is down is switched on again if
the response came in time, and a toxic is removed if the response told its name.
-/

namespace FaultDrill

variable {World : Type}

/-! ## Undoing -/

def Url.IsAbove (url below : Url) : Prop :=
  below.scheme = url.scheme ∧ below.host = url.host ∧ below.port = url.port ∧
    url.path.toList ++ ['/'] <+: below.path.toList

/-- Whether a request undoes what another one has asked for to arm a fault: a toxic is
deleted below the address where it was injected, and a route is switched on again. -/
def Undoes (arming undo : Http.Request) : Fault → Prop
  | .disable =>
      undo.method = .post ∧ undo.url = arming.url ∧ undo.body = some "\x7b\"enabled\":true\x7d"
  | _ => undo.method = .delete ∧ arming.url.IsAbove undo.url

namespace Line

variable (line : Line World)

/-- A response by which the control plane says that it has armed the fault of a turn. -/
structure Accepts (turn : Episode World) (exchange : Http.Exchange) (time : Nat)
    (response : Http.Response) : Prop where
  exchanged : exchange ∈ turn.opening.flatMap line.exchanges
  answered : exchange.answer = .response time response
  success : Command.isSuccess response.status

/-- Whether the fault of a turn is taken away again at the end of the turn. -/
def Undone (turn : Episode World) (fault : Fault) : Prop :=
  ∃ arming ∈ turn.opening.filterMap line.request?,
    ∃ undo ∈ turn.closing.filterMap line.request?, Undoes arming undo fault

/-- Whether a toxic of a name is found below the toxics of a route. -/
def Finds (route name : String) : Prop :=
  ∃ url below, Url.parse (Url.withPath line.address ("/proxies/" ++ route ++ "/toxics")) = .ok url ∧
    Url.parse (Url.withPath line.address ("/proxies/" ++ route ++ "/toxics/" ++ name)) = .ok below ∧
    url.IsAbove below

/-- Whether the toxics of a route are found at an address that ends in its path. -/
structure IsPlain (route : String) (url : Url) : Prop where
  parsed : Url.parse (Url.withPath line.address ("/proxies/" ++ route ++ "/toxics")) = .ok url
  reachable : Http.Client.isReachable url
  noFragment : '#' ∉ (Url.withPath line.address ("/proxies/" ++ route ++ "/toxics")).toList
  noQuery : url.query = none
  ends : url.path.toList.getLast? ≠ some '/'

/-- Whether a response whose head is there after some nanoseconds lets the client know
how to take a fault away. -/
def Tells (route : String) (known : Nat) (response : Http.Response) : Fault → Prop
  | .disable => known ≤ line.client.timeout
  | _ => known + response.bodyTime ≤ line.client.timeout ∧
      ∃ name, response.body.bind Command.toxicName? = some name ∧ line.Finds route name

end Line

namespace Drill

variable {crew : Crew World} {line : Line World} {route : String}

theorem undoes_toxic {fault : Fault} (isToxic : fault ≠ .disable) (arming undo : Http.Request) :
    Undoes arming undo fault ↔ undo.method = .delete ∧ arming.url.IsAbove undo.url := by
  cases fault <;> first | rfl | contradiction

theorem isReachable_of_scheme {url below : Url} (same : below.scheme = url.scheme) :
    Http.Client.isReachable below = Http.Client.isReachable url := by
  rw [Http.Client.isReachable, Http.Client.isReachable, same]

theorem compact_enabled :
    Json.compact (.ofFields [("enabled", .truth true)]) = "\x7b\"enabled\":true\x7d" := rfl

/-- A command that arms a fault is settled by the response that accepts it. -/
theorem settled_of_accepts {turn : Episode World} {command : Command} {world : World}
    (opening : turn.opening = [⟨.command command, world⟩]) {exchange : Http.Exchange} {time : Nat}
    {response : Http.Response} (accepts : line.Accepts turn exchange time response) :
    (((crew.over line).perform command).run world).1 =
        (command.settle line.client
          (line.client.replyTo (exchange.sentAt + time) response)).2 ∧
      ∃ arming, command.request? line.client line.address = some arming := by
  have exchanged := accepts.exchanged
  rw [opening, List.flatMap_singleton] at exchanged
  have settled := Command.perform_success line.client (line.network world) line.address command
    (line.traffic world) exchanged accepts.answered accepts.success
  have asked := Command.request?_of_exchange line.client (line.network world) line.address command
    (line.traffic world) exchanged
  exact ⟨congrArg Prod.snd settled, asked⟩

theorem episode_disable_undone {scenario : Scenario} {world : World}
    (down : scenario.fault = some .disable) {exchange : Http.Exchange} {time : Nat}
    {response : Http.Response}
    (accepts : line.Accepts (episode (crew.over line) route scenario world) exchange time
      response) :
    line.Undone (episode (crew.over line) route scenario world) .disable ↔
      exchange.sentAt + time ≤ line.client.timeout := by
  have opening := episode_disable_opening (crew.over line) route down world
  have closing := episode_disable_closing (crew.over line) route down world
  rcases settled_of_accepts opening accepts with ⟨settled, arming, armed⟩
  have asks : line.asks? (.command (.enable route false)) = some arming := armed
  rw [settled, Command.settle_enable line.client route false accepts.success] at closing
  rw [(Command.Asks.enable route false).request?_eq line.client line.address] at armed
  rcases line.client.parse_of_request? armed with ⟨parsed, reachable, -, -⟩
  let on : Value := .ofFields [("enabled", .truth true)]
  have undo : (Command.enable route true).request? line.client line.address =
      some (line.client.requestTo .post arming.url (some on)) := by
    rw [(Command.Asks.enable route true).request?_eq]
    exact line.client.request?_of_parse parsed reachable .post (some on)
  rw [Line.Undone, Line.filterMap_request?, Line.filterMap_request?, opening, closing]
  constructor
  · rintro ⟨_, _, undo, member, -⟩
    by_cases timely : exchange.sentAt + time ≤ line.client.timeout
    · exact timely
    · rw [decide_eq_false timely] at member
      cases member
  · intro timely
    refine ⟨arming, ?_, line.client.requestTo .post arming.url (some on), ?_, rfl, rfl,
      congrArg some compact_enabled⟩
    · simp [asks]
    · simp [timely, Line.asks?, undo]

theorem episode_toxic_undone {scenario : Scenario} {world : World} {fault : Fault}
    (isToxic : fault ≠ .disable) (armed : scenario.fault = some fault) {exchange : Http.Exchange}
    {time : Nat} {response : Http.Response}
    (accepts : line.Accepts (episode (crew.over line) route scenario world) exchange time
      response) :
    line.Undone (episode (crew.over line) route scenario world) fault ↔
      exchange.sentAt + time + response.bodyTime ≤ line.client.timeout ∧
        ∃ name, response.body.bind Command.toxicName? = some name ∧ line.Finds route name := by
  have opening := episode_toxic_opening (crew.over line) route isToxic armed world
  have closing := episode_toxic_closing (crew.over line) route isToxic armed world
  rcases settled_of_accepts opening accepts with ⟨settled, arming, armed⟩
  rw [settled, Command.settle_inject line.client route fault accepts.success] at closing
  have asks : line.asks? (.command (.inject route fault)) = some arming := armed
  rcases Command.exists_asks_inject route isToxic with ⟨body, injects⟩
  rw [injects.request?_eq line.client line.address] at armed
  rcases line.client.parse_of_request? armed with ⟨parsed, reachable, -, -⟩
  rw [Line.Undone, Line.filterMap_request?, Line.filterMap_request?, opening, closing]
  constructor
  · -- The removal was asked for by a name, and only the response can have told it.
    rintro ⟨known, member, undo, asked, undoes⟩
    have same : known = arming := by simpa [asks, eq_comm] using member
    subst same
    rw [undoes_toxic isToxic] at undoes
    by_cases timely : exchange.sentAt + time + response.bodyTime ≤ line.client.timeout
    · refine ⟨timely, ?_⟩
      rw [if_pos timely] at asked
      cases told : response.body.bind Command.toxicName? with
      | none =>
          rw [told] at asked
          cases asked
      | some name =>
          have removal : (Command.remove route (some name)).request? line.client line.address =
              some undo := by
            simpa [told, Line.asks?] using asked
          rw [(Command.Asks.remove route name).request?_eq line.client line.address] at removal
          rcases line.client.parse_of_request? removal with ⟨found, -⟩
          exact ⟨name, rfl, known.url, undo.url, parsed, found, undoes.2⟩
    · rw [if_neg timely] at asked
      cases asked
  · rintro ⟨timely, name, told, url, below, known, found, above⟩
    cases known.symm.trans parsed
    have belowReachable := (isReachable_of_scheme above.1).trans reachable
    have removal := (Command.Asks.remove route name).request?_eq line.client line.address
    rw [line.client.request?_of_parse found belowReachable] at removal
    refine ⟨arming, by simp [asks], line.client.requestTo .delete below none, ?_, ?_⟩
    · simp [timely, told, Line.asks?, removal]
    · rw [undoes_toxic isToxic]
      exact ⟨rfl, above⟩

theorem turn_undone {drill : Drill} {world : World} {turn : Episode World}
    (member : turn ∈ drill.episodes (crew.over line) world) {fault : Fault}
    (armed : turn.scenario.fault = some fault) {exchange : Http.Exchange} {time : Nat}
    {response : Http.Response} (accepts : line.Accepts turn exchange time response) :
    line.Undone turn fault ↔
      line.Tells drill.route.name (exchange.sentAt + time) response fault := by
  rw [eq_episode_of_mem (crew.over line) member] at accepts ⊢
  by_cases isToxic : fault = .disable
  · subst isToxic
    exact episode_disable_undone armed accepts
  · refine (episode_toxic_undone isToxic armed accepts).trans ?_
    cases fault <;> first | rfl | contradiction

/-! ## Toxics with names of one word -/

theorem isHostScheme_of_isReachable {url : Url} (reachable : Http.Client.isReachable url) :
    Url.isHostScheme url.scheme := by
  rw [Http.Client.isReachable, Bool.or_eq_true, decide_eq_true_eq, decide_eq_true_eq] at reachable
  exact Url.isHostScheme_of_isWeb reachable

theorem finds_of_word {url : Url} (plain : line.IsPlain route url) {name : String}
    (isWord : ∀ char ∈ name.toList, Url.isWordChar char) : line.Finds route name := by
  have text : Url.withPath line.address ("/proxies/" ++ route ++ "/toxics/" ++ name) =
      Url.withPath line.address ("/proxies/" ++ route ++ "/toxics") ++ ("/" ++ name) := by
    have slash : "/toxics/" ++ name = "/toxics" ++ ("/" ++ name) := by
      rw [← String.append_assoc]
      rfl
    simp [Url.withPath, String.append_assoc, slash]
  have tight : (Url.withPath line.address ("/proxies/" ++ route ++ "/toxics")).toList =
      (Url.withPath line.address ("/proxies/" ++ route ++ "/toxic")).toList ++ ['s'] := by
    simp [Url.withPath]
  have found := Url.parse_append_word plain.parsed (isHostScheme_of_isReachable plain.reachable)
    plain.noFragment plain.noQuery tight (by decide) plain.ends isWord
  rw [← text] at found
  refine ⟨url, _, plain.parsed, found, rfl, rfl, rfl, name.toList, ?_⟩
  simp

/-- On a plain line no toxic is left behind that the control plane tells in time by a
name of one word. -/
theorem told_word_undone {drill : Drill} {world : World} {url : Url}
    (plain : line.IsPlain drill.route.name url) {turn : Episode World}
    (member : turn ∈ drill.episodes (crew.over line) world) {fault : Fault}
    (armed : turn.scenario.fault = some fault) {exchange : Http.Exchange} {time : Nat}
    {response : Http.Response} (accepts : line.Accepts turn exchange time response)
    (timely : exchange.sentAt + time + response.bodyTime ≤ line.client.timeout) {name : String}
    (told : response.body.bind Command.toxicName? = some name)
    (isWord : ∀ char ∈ name.toList, Url.isWordChar char) : line.Undone turn fault := by
  rw [turn_undone member armed accepts]
  have tells : exchange.sentAt + time + response.bodyTime ≤ line.client.timeout ∧
      ∃ name, response.body.bind Command.toxicName? = some name ∧
        line.Finds drill.route.name name :=
    ⟨timely, name, told, finds_of_word plain isWord⟩
  cases fault with
  | latency delay jitter => exact tells
  | bandwidth rate => exact tells
  | disable => exact Nat.le_trans (Nat.le_add_right _ _) timely

/-! ## Whole drills -/

/-- A fault that the control plane has accepted is taken away at the end of its turn,
and so before anything else is done to the control plane or any other load is
produced, exactly if the client got to know of it in time. -/
theorem undone_iff_told (crew : Crew World) (line : Line World) (drill : Drill) (world : World)
    (ready : ((crew.over line).wait.run world).1 = .ready) :
    let turns := drill.episodes (crew.over line) world
    (drill.run (crew.over line) world).2.deeds =
        drill.preparation (crew.over line) world ++ turns.flatMap Episode.deeds ∧
      ∀ turn ∈ turns, ∀ fault exchange time response, turn.scenario.fault = some fault →
        line.Accepts turn exchange time response →
        (line.Undone turn fault ↔
          line.Tells drill.route.name (exchange.sentAt + time) response fault) := by
  refine ⟨deeds_of_ready (crew.over line) drill ready, ?_⟩
  intro turn member fault exchange time response armed accepts
  exact turn_undone member armed accepts

/-! ## A control plane in the field -/

def fieldEquipment : Equipment where
  probe := ⟨⟨30000000000, 5, []⟩, "http://target:8080/actuator/health", .ofSeconds 30,
    .ofSeconds 1⟩
  controlClient := ⟨30000000000, 5, []⟩
  controlAddress := "http://toxiproxy:8474"
  generator := ⟨⟨30000000000, 5, []⟩, "http://target:8080/api/v1/users/1", 1⟩

/-- A network on which everything succeeds after a millisecond. The target is up, and
the control plane says a text to everything. -/
def fieldSaying (text : String) : Surroundings where
  network _ request := .response 1000000
    { status := 200
      location := none
      body := some
        (if request.method = .get then "\x7b\"status\":\"UP\"\x7d" else text).toUTF8.toList }
  startedAt := ⟨⟨2024, 1, 1⟩, 0, 0⟩

def slowScenario : Scenario :=
  { name := "slow", seconds := 1, rate := 10, fault := some (.latency 100 10) }

def fieldDrill : Drill where
  route := {}
  patience := .ofSeconds 30
  scenarios := [slowScenario, { name := "after", seconds := 1, rate := 10, fault := none }]

def slowTurn (text : String) : Episode Site :=
  episode ((fieldSaying text).crew fieldEquipment) "redis_proxy" slowScenario
    (fieldDrill.prepared ((fieldSaying text).crew fieldEquipment) {})

theorem accepts_of_first {turn : Episode World} {time : Nat} {response : Http.Response}
    (first : (turn.opening.flatMap line.exchanges).head?.map
      (fun exchange => (exchange.sentAt, exchange.answer)) = some (0, .response time response))
    (success : Command.isSuccess response.status) :
    ∃ exchange, exchange.sentAt = 0 ∧ line.Accepts turn exchange time response := by
  rcases Option.map_eq_some_iff.mp first with ⟨exchange, found, equal⟩
  rcases Prod.mk.inj equal with ⟨sentAt, answer⟩
  exact ⟨exchange, sentAt, List.mem_of_mem_head? found, answer, success⟩

theorem undone_iff_told_slow :
    let text := "\x7b\"name\":\"latency_downstream\"\x7d"
    let line := (fieldSaying text).line fieldEquipment
    let crew := ((fieldSaying text).crew fieldEquipment).over line
    (crew.wait.run {}).1 = .ready ∧
      ∃ turn ∈ fieldDrill.episodes crew {}, turn.scenario = slowScenario ∧
        ∃ exchange time response, line.Accepts turn exchange time response ∧
          line.Undone turn (.latency 100 10) := by
  intro text line crew
  have ready : (crew.wait.run {}).1 = .ready := by decide +kernel
  have member : slowTurn text ∈ fieldDrill.episodes crew {} := List.mem_cons_self
  have accepted : ∃ exchange, exchange.sentAt = 0 ∧ line.Accepts (slowTurn text) exchange 1000000
      ⟨200, none, some text.toUTF8.toList, 0⟩ :=
    accepts_of_first (by decide +kernel) (by decide)
  rcases accepted with ⟨exchange, sentAt, accepts⟩
  have plain : line.IsPlain "redis_proxy"
      ⟨"http", some (.name "toxiproxy"), some 8474, "/proxies/redis_proxy/toxics", none⟩ :=
    ⟨toOption_eq_some.mp (by decide +kernel), by decide, by decide +kernel, rfl, by decide +kernel⟩
  have tells : line.Tells "redis_proxy" (exchange.sentAt + 1000000)
      ⟨200, none, some text.toUTF8.toList, 0⟩ (.latency 100 10) := by
    rw [sentAt]
    exact ⟨by decide, "latency_downstream", by decide +kernel,
      finds_of_word plain (List.all_eq_true.mp (by decide +kernel))⟩
  have undone := ((undone_iff_told _ line fieldDrill {} ready).2 (slowTurn text) member _ exchange
    1000000 _ rfl accepts).mpr tells
  exact ⟨ready, slowTurn text, member, rfl, exchange, 1000000, _, accepts, undone⟩

/-- A toxic that the control plane does not tell stays while the next scenario is run. -/
theorem untold_toxic_stays :
    let line := (fieldSaying "no").line fieldEquipment
    let crew := (fieldSaying "no").crew fieldEquipment
    (crew.wait.run {}).1 = .ready ∧ (fieldDrill.episodes crew {}).length = 2 ∧
      ∃ turn ∈ fieldDrill.episodes crew {}, turn.scenario = slowScenario ∧
        ∃ exchange time response, line.Accepts turn exchange time response ∧
          ¬ line.Undone turn (.latency 100 10) := by
  intro line crew
  have accepted : ∃ exchange, exchange.sentAt = 0 ∧ line.Accepts (slowTurn "no") exchange 1000000
      ⟨200, none, some "no".toUTF8.toList, 0⟩ :=
    accepts_of_first (by decide +kernel) (by decide)
  rcases accepted with ⟨exchange, -, accepts⟩
  have silent : (slowTurn "no").closing.filterMap line.request? = [] := by decide +kernel
  refine ⟨by decide +kernel, by decide +kernel, slowTurn "no", List.mem_cons_self, rfl, exchange,
    1000000, _, accepts, ?_⟩
  rintro ⟨-, -, undo, asked, -⟩
  rw [silent] at asked
  cases asked

end Drill

end FaultDrill
