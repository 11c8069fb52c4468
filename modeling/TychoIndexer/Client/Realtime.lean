import TychoIndexer.Models

/-!
# The realtime client's session task

`TychoWsClientImpl::realtime_messages` returns the receiving end of a channel and spawns one
task per session. The task connects to the server's WebSocket, writes a `Subscribe` command for
the ambient extractor, and then handles the inbound frames one at a time, in arrival order:

* a `Text` frame is deserialized as a `WebSocketMessage`: its `BlockAccountChanges` are sent into
  the consumer channel, a `NewSubscription` or `SubscriptionEnded` response updates the map of
  active subscriptions, and text that does not deserialize is logged and skipped;
* a `Ping` is answered with a `Pong`; a `Pong`, any other kind of frame and a transport error
  are skipped;
* a `Close` drops the channel's sender and ends the task.

Three `expect`s and one `unwrap` can panic: when the connection fails, when a send into the
channel fails (the consumer dropped the receiver), when a `SubscriptionEnded` names a
subscription that is not active, and when the `Pong` cannot be written. A panic ends the task,
and leaving the task drops the sender, so the consumer's channel is closed however the task ends.

The deserializer `serde_json::from_str` is outside the repository: it is the parameter `decode`.
The payload `BlockAccountChanges` is passed on unread: it is the type parameter `β`. How each
write of the task ends is part of its input: every inbound item carries the outcome of the write
it makes.

* `handleMessage_eq_ok`, `handleMessage_eq_error`, `handleMessage_of_endedId` — what one turn of
  the loop does, stated once and used by every run lemma;
* `loop_channel_prefix_dataPayloads` — the task puts on the channel a prefix of the payloads of
  the data frames before the first `Close`, in arrival order;
* `loop_of_writes_ok` — all of them, when every write succeeds and every `SubscriptionEnded`
  names an active subscription; the task then ends at the first `Close`, or with the stream;
* `loop_append_close` — no frame after the first `Close` is read;
* `loop_activeExtractors` — the map of active subscriptions is the replay of the subscription
  responses, and a `SubscriptionEnded` aborts the task exactly when its id is not in it;
* `loop_streamEnd_of_writes_ok` — a run with no `Close`, whose writes succeed and whose every
  `SubscriptionEnded` names an active subscription, reads the whole stream;
* `loop_output_prefix`, `loop_output_of_writes_ok` — the same two run lemmas for any stream of
  the session that each turn extends, such as the frames written to the socket;
* `loop_filter_inert` — transport errors and frames the task skips can be removed from the
  input without changing the run;
* the last section says the same of the whole task, from the connection on.
-/

namespace TychoIndexer

/-! ### Messages -/

/-- `uuid::Uuid`, by its 128 bits. -/
abbrev Uuid := Fin (2 ^ 128)

/-- `tycho_msg_types::raw::ExtractorIdentity`. -/
structure ExtractorIdentity where
  chain : Chain
  name : String
  deriving DecidableEq, Repr

/-- `tycho_msg_types::raw::Command`: what the client writes to the server, as JSON text. -/
inductive Command
  | subscribe (extractorId : ExtractorIdentity)
  | unsubscribe (subscriptionId : Uuid)
  deriving DecidableEq, Repr

/-- `tycho_msg_types::raw::Response`: the control-plane messages of the server. -/
inductive Response
  | newSubscription (extractorId : ExtractorIdentity) (subscriptionId : Uuid)
  | subscriptionEnded (subscriptionId : Uuid)
  deriving DecidableEq, Repr

/-- `tycho_msg_types::raw::WebSocketMessage`, with its data-plane payload `BlockAccountChanges`
as the type parameter `β`. -/
inductive WebSocketMessage (β : Type)
  | blockAccountChanges (changes : β)
  | response (response : Response)
  deriving DecidableEq, Repr

/-- tungstenite's `Message`: the kinds of WebSocket frame. -/
inductive Message
  | text (text : String)
  | binary (data : Bytes)
  | ping (data : Bytes)
  | pong (data : Bytes)
  | close
  | frame (data : Bytes)
  deriving DecidableEq, Repr

/-- A frame the task writes to the socket: a command, as the text frame of its JSON, or a
`Pong`. -/
inductive Outbound
  | command (command : Command)
  | pong (data : Bytes)
  deriving DecidableEq, Repr

/-- `AMBIENT_EXTRACTOR_HANDLE`. -/
def ambientExtractorHandle : String := "vm:ambient"

/-- The extractor of the task's first command:
`ExtractorIdentity::new(Chain::Ethereum, AMBIENT_EXTRACTOR_HANDLE)`. -/
def ambientExtractor : ExtractorIdentity := ⟨.ethereum, ambientExtractorHandle⟩

/-! ### The task -/

/-- One turn of the loop: what `incoming_messages.next()` yields, a frame or the text of a
transport error, with how the write the task makes in answer ends: the send into the consumer
channel for a data frame, the `Pong` for a `Ping`. Other frames make no write, and their `write`
is not read. -/
structure Inbound where
  msg : Except String Message
  write : Except String Unit

/-- The task's variables between two frames: `active_extractors`, the payloads sent into the
consumer channel so far, and the frames written to the socket so far. -/
structure Session (β : Type) where
  activeExtractors : HashMap Uuid ExtractorIdentity
  channel : List β
  sink : List Outbound

/-- How the task ends. Each way drops the channel's sender `tx` and so closes the consumer's
channel: `Close` drops it explicitly, the end of the stream and a panic by leaving the task. -/
inductive Exit
  | close
  | streamEnd
  | panic (msg : String)
  deriving DecidableEq, Repr

section Task

variable {β : Type} (decode : String → Except String (WebSocketMessage β))

/-- The body of the `while let Some(msg)` loop for one inbound item: the next state, or how the
task ends. `decode` is `serde_json::from_str::<WebSocketMessage>`. -/
def handleMessage (s : Session β) (item : Inbound) : Except Exit (Session β) :=
  match item.msg with
  | .ok (.text text) =>
    match decode text with
    | .ok (.blockAccountChanges changes) =>
      match item.write with
      | .ok () => .ok { s with channel := s.channel ++ [changes] }
      | .error _ => .error (.panic "send message: ()")
    | .ok (.response (.newSubscription extractorId subscriptionId)) =>
      .ok { s with activeExtractors := s.activeExtractors.insert subscriptionId extractorId }
    | .ok (.response (.subscriptionEnded subscriptionId)) =>
      match s.activeExtractors.lookup subscriptionId with
      | some _ => .ok { s with activeExtractors := s.activeExtractors.erase subscriptionId }
      | none => .error (.panic "subscription id in active extractors")
    | .error _ => .ok s
  | .ok (.ping _) =>
    match item.write with
    | .ok () => .ok { s with sink := s.sink ++ [.pong []] }
    | .error e => .error (.panic s!"called `Result::unwrap()` on an `Err` value: {e}")
  | .ok (.pong _) => .ok s
  | .ok .close => .error .close
  | .ok _ => .ok s
  | .error _ => .ok s

/-- The `while let Some(msg) = incoming_messages.next().await` loop: the items in arrival order,
until one ends the task or the stream ends, with the state the task ends in. -/
def loop : Session β → List Inbound → Session β × Exit
  | s, [] => (s, .streamEnd)
  | s, item :: items =>
    match handleMessage decode s item with
    | .ok s' => loop s' items
    | .error exit => (s, exit)

/-- The state the loop starts in: no active subscription, nothing sent to the consumer, and on
the socket the `Subscribe` command for the ambient extractor, when its write succeeded. -/
def Session.initial (subscribe : Except String Unit) : Session β :=
  ⟨∅, [], match subscribe with
    | .ok () => [.command (.subscribe ambientExtractor)]
    | .error _ => []⟩

@[simp] theorem Session.initial_activeExtractors (subscribe : Except String Unit) :
    (Session.initial subscribe : Session β).activeExtractors = ∅ := rfl

@[simp] theorem Session.initial_channel (subscribe : Except String Unit) :
    (Session.initial subscribe : Session β).channel = [] := rfl

/-- The task `realtime_messages` spawns: connect (the `expect` panics when the connection fails),
write the `Subscribe` command for the ambient extractor (a failed write is logged and ignored),
then the loop from an empty map of active subscriptions. -/
def realtimeMessages (connect subscribe : Except String Unit) (items : List Inbound) :
    Session β × Exit :=
  match connect with
  | .error _ => (⟨∅, [], []⟩, .panic "connect to websocket: ()")
  | .ok () => loop decode (Session.initial subscribe) items

theorem realtimeMessages_of_connect (subscribe : Except String Unit) (items : List Inbound) :
    realtimeMessages decode (.ok ()) subscribe items =
      loop decode (Session.initial subscribe) items := rfl

/-! ### What the frames ask for -/

/-- The payload a frame delivers: that of a text frame that deserializes to
`BlockAccountChanges`. -/
def payload? (msg : Except String Message) : Option β :=
  match msg with
  | .ok (.text text) =>
    match decode text with
    | .ok (.blockAccountChanges changes) => some changes
    | _ => none
  | _ => none

/-- The id a `SubscriptionEnded` frame names. -/
def endedId? (msg : Except String Message) : Option Uuid :=
  match msg with
  | .ok (.text text) =>
    match decode text with
    | .ok (.response (.subscriptionEnded subscriptionId)) => some subscriptionId
    | _ => none
  | _ => none

/-- The frame is a `Close`. -/
def isClose : Except String Message → Bool
  | .ok .close => true
  | _ => false

/-- The frame is a `Ping`. -/
def isPing : Except String Message → Bool
  | .ok (.ping _) => true
  | _ => false

/-- The frame makes the task write: a data frame its send into the channel, a `Ping` its
`Pong`. -/
def makesWrite (msg : Except String Message) : Bool :=
  (payload? decode msg).isSome || isPing msg

/-- The frames the task reads: those before the first `Close`. -/
def beforeClose (msgs : List (Except String Message)) : List (Except String Message) :=
  msgs.takeWhile fun msg => !isClose msg

/-- What the consumer is owed: the payloads of the data frames before the first `Close`, in
arrival order. -/
def dataPayloads (msgs : List (Except String Message)) : List β :=
  (beforeClose msgs).filterMap (payload? decode)

/-- The change a frame makes to a map of active subscriptions: `insert` for a
`NewSubscription`, `remove` for a `SubscriptionEnded`; every other frame leaves it. -/
def applySubscription (active : HashMap Uuid ExtractorIdentity) (msg : Except String Message) :
    HashMap Uuid ExtractorIdentity :=
  match msg with
  | .ok (.text text) =>
    match decode text with
    | .ok (.response (.newSubscription extractorId subscriptionId)) =>
      active.insert subscriptionId extractorId
    | .ok (.response (.subscriptionEnded subscriptionId)) => active.erase subscriptionId
    | _ => active
  | _ => active

/-- The map of active subscriptions that the responses among `msgs` build from the empty map,
in arrival order. -/
def activeAfter (msgs : List (Except String Message)) : HashMap Uuid ExtractorIdentity :=
  msgs.foldl (applySubscription decode) ∅

/-- Every `SubscriptionEnded` among `msgs` names a subscription that is active at its turn, the
map starting from `active`. -/
def endsOnlyActive (active : HashMap Uuid ExtractorIdentity) :
    List (Except String Message) → Bool
  | [] => true
  | msg :: msgs =>
    (match endedId? decode msg with
     | some subscriptionId => (active.lookup subscriptionId).isSome
     | none => true) &&
    endsOnlyActive (applySubscription decode active msg) msgs

/-- The frame the task writes in answer to a frame: an empty `Pong` for a `Ping`, whatever the
`Ping` carries, and nothing for every other frame. -/
def pongOf (msg : Except String Message) : List Outbound :=
  if isPing msg then [.pong []] else []

/-- What the task owes the server for the frames it reads: one empty `Pong` per `Ping` before the
first `Close`, in arrival order. -/
def pongs (msgs : List (Except String Message)) : List Outbound :=
  (beforeClose msgs).flatMap pongOf

/-- A frame the loop only logs: a transport error, a `Pong`, a `Binary` or raw frame, or text
that does not deserialize. -/
def isInert (msg : Except String Message) : Bool :=
  match msg with
  | .ok (.text text) =>
    match decode text with
    | .ok _ => false
    | .error _ => true
  | .ok (.ping _) | .ok .close => false
  | _ => true

end Task

/-! ### One turn of the loop -/

section Turn

variable {β : Type} {decode : String → Except String (WebSocketMessage β)} {s s' : Session β}
  {item : Inbound}

theorem handleMessage_eq_ok (h : handleMessage decode s item = .ok s') :
    s'.activeExtractors = applySubscription decode s.activeExtractors item.msg ∧
    s'.channel = s.channel ++ (payload? decode item.msg).toList ∧ isClose item.msg = false := by
  obtain ⟨msg, write⟩ := item
  rcases msg with e | (text | d | d | d | _ | d)
  · cases h; exact ⟨rfl, by simp [payload?], rfl⟩
  · simp only [handleMessage] at h
    simp only [applySubscription, payload?, isClose, and_true]
    cases hd : decode text with
    | error e => simp only [hd] at h; cases h; simp
    | ok m =>
      rcases m with c | (⟨x, u⟩ | u) <;> simp only [hd] at h ⊢
      · cases write with
        | error e => cases h
        | ok _ => cases h; simp
      · cases h; simp
      · cases hl : s.activeExtractors.lookup u <;> simp only [hl] at h <;> cases h; simp
  · cases h; simp [applySubscription, payload?, isClose]
  · cases write with
    | ok _ => cases h; simp [applySubscription, payload?, isClose]
    | error e => cases h
  · cases h; simp [applySubscription, payload?, isClose]
  · cases h
  · cases h; simp [applySubscription, payload?, isClose]

/-- **A turn that ends the task**: at a `Close`; or by a panic, when the write of a data frame or
of a `Pong` fails, or when a `SubscriptionEnded` names a subscription that is not active. -/
theorem handleMessage_eq_error {exit : Exit} (h : handleMessage decode s item = .error exit) :
    (exit = .close ∧ isClose item.msg = true) ∨
    (∃ m e, exit = .panic m ∧ makesWrite decode item.msg = true ∧ item.write = .error e) ∨
    (exit = .panic "subscription id in active extractors" ∧
      ∃ u, endedId? decode item.msg = some u ∧ s.activeExtractors.lookup u = none) := by
  obtain ⟨msg, write⟩ := item
  rcases msg with e | (text | d | d | d | _ | d)
  · cases h
  · simp only [handleMessage] at h
    simp only [makesWrite, payload?, endedId?]
    cases hd : decode text with
    | error e => simp only [hd] at h; cases h
    | ok m =>
      rcases m with c | (⟨x, u⟩ | u) <;> simp only [hd] at h ⊢
      · cases write with
        | error e => cases h; exact .inr (.inl ⟨_, e, rfl, rfl, rfl⟩)
        | ok _ => cases h
      · cases h
      · cases hl : s.activeExtractors.lookup u <;> simp only [hl] at h <;> cases h
        exact .inr (.inr ⟨rfl, u, rfl, hl⟩)
  · cases h
  · cases write with
    | ok _ => cases h
    | error e => cases h; exact .inr (.inl ⟨_, e, rfl, by simp [makesWrite, isPing], rfl⟩)
  · cases h
  · cases h; exact .inl ⟨rfl, rfl⟩
  · cases h

/-- A turn at a `SubscriptionEnded` frame removes its id when it is active, and panics when it is
not. -/
theorem handleMessage_of_endedId {u : Uuid} (hu : endedId? decode item.msg = some u) :
    handleMessage decode s item = match s.activeExtractors.lookup u with
      | some _ => .ok { s with activeExtractors := s.activeExtractors.erase u }
      | none => .error (.panic "subscription id in active extractors") := by
  obtain ⟨msg, write⟩ := item
  rcases msg with e | (text | d | d | d | _ | d) <;> simp [endedId?] at hu
  cases hd : decode text with
  | error e => simp [hd] at hu
  | ok m =>
    rcases m with c | (⟨x, u'⟩ | u') <;> simp only [hd, reduceCtorEq, Option.some.injEq] at hu
    subst hu
    cases hl : s.activeExtractors.lookup u' <;> simp only [handleMessage, hd, hl]

/-- A turn continues when the frame is not a `Close`, its write succeeds, and a
`SubscriptionEnded` names an active subscription. -/
theorem handleMessage_isOk (hclose : isClose item.msg = false)
    (hwrite : makesWrite decode item.msg = true → item.write = .ok ())
    (hended : ∀ u, endedId? decode item.msg = some u → (s.activeExtractors.lookup u).isSome) :
    ∃ s', handleMessage decode s item = .ok s' := by
  cases h : handleMessage decode s item with
  | ok s' => exact ⟨s', rfl⟩
  | error exit =>
    rcases handleMessage_eq_error h with ⟨-, hc⟩ | ⟨m, e, -, hw, he⟩ | ⟨-, u, hu, hl⟩
    · simp [hc] at hclose
    · simp [hwrite hw] at he
    · simpa [hl] using hended u hu

/-- A turn never ends the task as the end of the stream does. -/
theorem handleMessage_ne_streamEnd (h : handleMessage decode s item = .error .streamEnd) : False := by
  rcases handleMessage_eq_error h with ⟨h, -⟩ | ⟨m, e, h, -⟩ | ⟨h, -⟩ <;> cases h

theorem handleMessage_of_isClose (h : isClose item.msg = true) :
    handleMessage decode s item = .error .close := by
  obtain ⟨msg, write⟩ := item
  rcases msg with e | (text | d | d | d | _ | d) <;> simp [isClose] at h
  rfl

/-- **What a turn writes to the socket**: an empty `Pong` after a `Ping`, nothing otherwise. -/
theorem handleMessage_sink (h : handleMessage decode s item = .ok s') :
    s'.sink = s.sink ++ pongOf item.msg := by
  unfold handleMessage at h
  repeat' split at h
  all_goals (cases h <;> simp_all [pongOf, isPing])

/-- A turn at an inert frame leaves the task's state as it is. -/
theorem handleMessage_of_isInert (h : isInert decode item.msg = true) :
    handleMessage decode s item = .ok s := by
  obtain ⟨msg, write⟩ := item
  rcases msg with e | (text | d | d | d | _ | d) <;> simp only [isInert, Bool.false_eq_true] at h
  · rfl
  · cases hd : decode text with
    | error e => simp only [handleMessage, hd]
    | ok m => simp only [hd, Bool.false_eq_true] at h
  all_goals rfl

end Turn

/-! ### Runs of the loop -/

section Run

variable {β : Type} {decode : String → Except String (WebSocketMessage β)}

theorem beforeClose_cons_of_not_close {msg : Except String Message}
    (msgs : List (Except String Message)) (h : isClose msg = false) :
    beforeClose (msg :: msgs) = msg :: beforeClose msgs := by
  simp [beforeClose, List.takeWhile_cons, h]

theorem beforeClose_cons_of_close {msg : Except String Message}
    (msgs : List (Except String Message)) (h : isClose msg = true) :
    beforeClose (msg :: msgs) = [] := by
  simp [beforeClose, List.takeWhile_cons, h]

theorem dataPayloads_cons_of_not_close {msg : Except String Message}
    (msgs : List (Except String Message)) (h : isClose msg = false) :
    dataPayloads decode (msg :: msgs) = (payload? decode msg).toList ++ dataPayloads decode msgs := by
  rw [dataPayloads, beforeClose_cons_of_not_close msgs h, List.filterMap_cons]
  cases payload? decode msg <;> rfl

/-- The loop over `items ++ more`, when it reads all of `items`, goes on from where `items` left
it. -/
theorem loop_append {s : Session β} {items : List Inbound}
    (h : (loop decode s items).2 = .streamEnd) (more : List Inbound) :
    loop decode s (items ++ more) = loop decode (loop decode s items).1 more := by
  induction items generalizing s with
  | nil => rfl
  | cons item items ih =>
    simp only [loop] at h ⊢
    cases hs : handleMessage decode s item with
    | ok s' => simp only [List.cons_append, loop, hs] at h ⊢; exact ih h
    | error exit =>
      simp only [hs] at h
      exact (handleMessage_ne_streamEnd (h ▸ hs)).elim

/-- **What reaches the consumer is a prefix of what it is owed.** -/
theorem loop_channel_prefix_dataPayloads (s : Session β) (items : List Inbound) :
    ∃ l, (loop decode s items).1.channel = s.channel ++ l ∧
      l <+: dataPayloads decode (items.map (·.msg)) := by
  induction items generalizing s with
  | nil => exact ⟨[], by simp [loop], List.nil_prefix⟩
  | cons item items ih =>
    cases h : handleMessage decode s item with
    | error exit => exact ⟨[], by simp [loop, h], List.nil_prefix⟩
    | ok s' =>
      obtain ⟨-, hchannel, hclose⟩ := handleMessage_eq_ok h
      obtain ⟨l, hl, hpre⟩ := ih s'
      refine ⟨(payload? decode item.msg).toList ++ l, by simp [loop, h, hl, hchannel], ?_⟩
      rw [List.map_cons, dataPayloads_cons_of_not_close _ hclose]
      exact (List.prefix_append_right_inj _).mpr hpre

/-- **Nothing is lost when every write succeeds** and every `SubscriptionEnded` names an active
subscription: the consumer receives every payload it is owed, and the task ends at the first
`Close`, or with the stream. -/
theorem loop_of_writes_ok (s : Session β) (items : List Inbound)
    (hwrite : ∀ item ∈ items.takeWhile (fun item => !isClose item.msg),
      makesWrite decode item.msg = true → item.write = .ok ())
    (hended : endsOnlyActive decode s.activeExtractors (beforeClose (items.map (·.msg))) = true) :
    (loop decode s items).1.channel = s.channel ++ dataPayloads decode (items.map (·.msg)) ∧
      (loop decode s items).2 =
        if items.any (fun item => isClose item.msg) then .close else .streamEnd := by
  induction items generalizing s with
  | nil => simp [loop, dataPayloads, beforeClose]
  | cons item items ih =>
    cases hclose : isClose item.msg with
    | true =>
      simp [loop, handleMessage_of_isClose hclose, dataPayloads, beforeClose_cons_of_close _ hclose,
        hclose]
    | false =>
      rw [List.map_cons, beforeClose_cons_of_not_close _ hclose, endsOnlyActive,
        Bool.and_eq_true] at hended
      simp only [List.takeWhile_cons, hclose, Bool.not_false, ite_true, List.mem_cons,
        forall_eq_or_imp] at hwrite
      obtain ⟨s', hs'⟩ := handleMessage_isOk hclose hwrite.1 fun u hu => by
        simpa [hu] using hended.1
      obtain ⟨hactive, hchannel, -⟩ := handleMessage_eq_ok hs'
      obtain ⟨ih₁, ih₂⟩ := ih s' hwrite.2 (hactive ▸ hended.2)
      refine ⟨?_, ?_⟩
      · rw [loop, hs', ih₁, hchannel, List.map_cons, dataPayloads_cons_of_not_close _ hclose,
          List.append_assoc]
      · simp [loop, hs', ih₂, hclose]

/-- **No frame after the first `Close` is read.** -/
theorem loop_append_close (s : Session β) (pre post : List Inbound) (write : Except String Unit) :
    loop decode s (pre ++ ⟨.ok .close, write⟩ :: post) =
      loop decode s (pre ++ [⟨.ok .close, write⟩]) := by
  induction pre generalizing s with
  | nil => rfl
  | cons item pre ih =>
    simp only [List.cons_append, loop]
    cases handleMessage decode s item with
    | ok s' => exact ih s'
    | error exit => rfl

/-- **The map of active subscriptions is the replay of the responses** read so far. -/
theorem loop_activeExtractors {s : Session β} {items : List Inbound}
    (h : (loop decode s items).2 = .streamEnd) :
    (loop decode s items).1.activeExtractors =
      (items.map (·.msg)).foldl (applySubscription decode) s.activeExtractors := by
  induction items generalizing s with
  | nil => rfl
  | cons item items ih =>
    cases hs : handleMessage decode s item with
    | ok s' =>
      simp only [loop, hs] at h ⊢
      rw [ih h, (handleMessage_eq_ok hs).1]
      rfl
    | error exit =>
      simp only [loop, hs] at h
      exact (handleMessage_ne_streamEnd (h ▸ hs)).elim

/-- **A run with no `Close` reads the whole stream** when every write succeeds and every
`SubscriptionEnded` names an active subscription, and ends with the replay of the responses as
its map. -/
theorem loop_streamEnd_of_writes_ok (s : Session β) (items : List Inbound)
    (hclose : ∀ item ∈ items, isClose item.msg = false)
    (hwrite : ∀ item ∈ items, makesWrite decode item.msg = true → item.write = .ok ())
    (hended : endsOnlyActive decode s.activeExtractors (items.map (·.msg)) = true) :
    (loop decode s items).2 = .streamEnd ∧
      (loop decode s items).1.activeExtractors =
        (items.map (·.msg)).foldl (applySubscription decode) s.activeExtractors := by
  have htake : items.takeWhile (fun item => !isClose item.msg) = items :=
    List.takeWhile_eq_self_iff.mpr fun item h => by simp [hclose item h]
  have hbefore : beforeClose (items.map (·.msg)) = items.map (·.msg) :=
    List.takeWhile_eq_self_iff.mpr fun msg h => by
      obtain ⟨item, hi, rfl⟩ := List.mem_map.mp h
      simp [hclose item hi]
  have hexit := (loop_of_writes_ok s items (by rwa [htake]) (by rwa [hbefore])).2
  rw [if_neg (by simpa using hclose)] at hexit
  exact ⟨hexit, loop_activeExtractors hexit⟩

theorem isClose_eq_false_of_endedId {msg : Except String Message} {u : Uuid}
    (h : endedId? decode msg = some u) : isClose msg = false := by
  rcases msg with e | (text | d | d | d | _ | d) <;> first | rfl | simp [endedId?] at h

/-- **Only a failed write aborts** a run in which every `SubscriptionEnded` names an active
subscription. -/
theorem loop_panic_of_endsOnlyActive {s : Session β} {items : List Inbound}
    (hended : endsOnlyActive decode s.activeExtractors (beforeClose (items.map (·.msg))) = true)
    {m : String} (h : (loop decode s items).2 = .panic m) :
    ∃ item ∈ items, makesWrite decode item.msg = true ∧ item.write ≠ .ok () := by
  induction items generalizing s with
  | nil => cases h
  | cons item items ih =>
    cases hs : handleMessage decode s item with
    | ok s' =>
      obtain ⟨hactive, -, hclose⟩ := handleMessage_eq_ok hs
      rw [List.map_cons, beforeClose_cons_of_not_close _ hclose, endsOnlyActive,
        Bool.and_eq_true] at hended
      simp only [loop, hs] at h
      obtain ⟨x, hx, hw⟩ := ih (hactive ▸ hended.2) h
      exact ⟨x, List.mem_cons_of_mem _ hx, hw⟩
    | error exit =>
      simp only [loop, hs] at h
      subst h
      rcases handleMessage_eq_error hs with ⟨h, -⟩ | ⟨-, e, -, hw, he⟩ | ⟨-, u, hu, hl⟩
      · cases h
      · exact ⟨item, List.mem_cons_self _ _, hw, by simp [he]⟩
      · rw [List.map_cons, beforeClose_cons_of_not_close _ (isClose_eq_false_of_endedId hu),
          endsOnlyActive, Bool.and_eq_true] at hended
        simp [hu, hl] at hended

theorem flatMap_beforeClose_cons {γ : Type} (o : Except String Message → List γ)
    {msg : Except String Message} (msgs : List (Except String Message)) (h : isClose msg = false) :
    (beforeClose (msg :: msgs)).flatMap o = o msg ++ (beforeClose msgs).flatMap o := by
  rw [beforeClose_cons_of_not_close _ h, List.flatMap_cons]

section Output

/-! A stream of the session that every turn extends, as `sink` is by `handleMessage_sink`: over a
run it gets what the frames before the first `Close` ask for, a prefix of it in general. -/

variable {γ : Type} (out : Session β → List γ) (o : Except String Message → List γ)
  (hstep : ∀ {s s' : Session β} {item : Inbound}, handleMessage decode s item = .ok s' →
    out s' = out s ++ o item.msg)
include hstep

theorem loop_output_prefix (s : Session β) (items : List Inbound) :
    ∃ l, out (loop decode s items).1 = out s ++ l ∧
      l <+: (beforeClose (items.map (·.msg))).flatMap o := by
  induction items generalizing s with
  | nil => exact ⟨[], by simp [loop], List.nil_prefix⟩
  | cons item items ih =>
    cases h : handleMessage decode s item with
    | error exit => exact ⟨[], by simp [loop, h], List.nil_prefix⟩
    | ok s' =>
      obtain ⟨l, hl, hpre⟩ := ih s'
      refine ⟨o item.msg ++ l, by simp [loop, h, hl, hstep h], ?_⟩
      rw [List.map_cons, flatMap_beforeClose_cons _ _ (handleMessage_eq_ok h).2.2]
      exact (List.prefix_append_right_inj _).mpr hpre

theorem loop_output_of_writes_ok (s : Session β) (items : List Inbound)
    (hwrite : ∀ item ∈ items.takeWhile (fun item => !isClose item.msg),
      makesWrite decode item.msg = true → item.write = .ok ())
    (hended : endsOnlyActive decode s.activeExtractors (beforeClose (items.map (·.msg))) = true) :
    out (loop decode s items).1 = out s ++ (beforeClose (items.map (·.msg))).flatMap o := by
  induction items generalizing s with
  | nil => simp [loop, beforeClose]
  | cons item items ih =>
    cases hclose : isClose item.msg with
    | true =>
      simp [loop, handleMessage_of_isClose hclose, beforeClose_cons_of_close _ hclose]
    | false =>
      rw [List.map_cons, beforeClose_cons_of_not_close _ hclose, endsOnlyActive,
        Bool.and_eq_true] at hended
      simp only [List.takeWhile_cons, hclose, Bool.not_false, ite_true, List.mem_cons,
        forall_eq_or_imp] at hwrite
      obtain ⟨s', hs'⟩ := handleMessage_isOk hclose hwrite.1 fun u hu => by
        simpa [hu] using hended.1
      rw [loop, hs', ih s' hwrite.2 ((handleMessage_eq_ok hs').1 ▸ hended.2), hstep hs',
        List.map_cons, flatMap_beforeClose_cons _ _ hclose, List.append_assoc]

end Output

/-- **Inert frames are transparent**: dropping them from the inbound stream changes nothing of a
run. -/
theorem loop_filter_inert (s : Session β) (items : List Inbound) :
    loop decode s (items.filter fun item => !isInert decode item.msg) = loop decode s items := by
  induction items generalizing s with
  | nil => rfl
  | cons item items ih =>
    cases hi : isInert decode item.msg with
    | true =>
      rw [List.filter_cons_of_neg (by simp [hi]), ih]
      simp only [loop, handleMessage_of_isInert hi]
    | false =>
      rw [List.filter_cons_of_pos (by simp [hi])]
      simp only [loop]
      cases handleMessage decode s item with
      | ok s' => exact ih s'
      | error exit => rfl

end Run

/-! ### The session task -/

section Session

variable {β : Type} (decode : String → Except String (WebSocketMessage β))

/-- **What the consumer receives.** Whatever the frames, the connection and the writes, the
channel gets a prefix of the payloads of the data frames before the first `Close`, in arrival
order; once connected, all of them when every write succeeds and every `SubscriptionEnded` names
an active subscription, the task then ending at the first `Close` or with the stream. No frame
after the first `Close` is read. A frame that is neither a data frame nor a `Close` puts nothing
on the channel, and ends the task only when it is a `Ping` whose `Pong` cannot be written or a
`SubscriptionEnded` naming a subscription that is not active. -/
theorem realtimeMessages_channel (connect subscribe : Except String Unit) (items : List Inbound) :
    (realtimeMessages decode connect subscribe items).1.channel <+:
        dataPayloads decode (items.map (·.msg)) ∧
    (connect = .ok () →
      (∀ item ∈ items.takeWhile (fun item => !isClose item.msg),
        makesWrite decode item.msg = true → item.write = .ok ()) →
      endsOnlyActive decode ∅ (beforeClose (items.map (·.msg))) = true →
      (realtimeMessages decode connect subscribe items).1.channel =
          dataPayloads decode (items.map (·.msg)) ∧
        (realtimeMessages decode connect subscribe items).2 =
          if items.any (fun item => isClose item.msg) then .close else .streamEnd) ∧
    (∀ (pre post : List Inbound) (write : Except String Unit),
      realtimeMessages decode connect subscribe (pre ++ ⟨.ok .close, write⟩ :: post) =
        realtimeMessages decode connect subscribe (pre ++ [⟨.ok .close, write⟩])) ∧
    (∀ (s : Session β) (item : Inbound), payload? decode item.msg = none →
      isClose item.msg = false →
      (∀ s', handleMessage decode s item = .ok s' → s'.channel = s.channel) ∧
      ∀ exit, handleMessage decode s item = .error exit →
        (isPing item.msg = true ∧ item.write ≠ .ok ()) ∨
        ∃ u, endedId? decode item.msg = some u ∧ s.activeExtractors.lookup u = none) := by
  refine ⟨?_, ?_, fun pre post write => ?_, fun s item hpayload hclose => ⟨fun s' h => ?_, ?_⟩⟩
  · cases connect with
    | error e => exact List.nil_prefix
    | ok _ =>
      obtain ⟨l, hl, hpre⟩ :=
        @loop_channel_prefix_dataPayloads β decode (Session.initial subscribe) items
      rw [realtimeMessages_of_connect, hl]
      simpa using hpre
  · rintro rfl hwrite hended
    simpa using loop_of_writes_ok _ items hwrite hended
  · cases connect with
    | error e => rfl
    | ok _ => exact loop_append_close _ pre post write
  · simpa [hpayload] using (handleMessage_eq_ok h).2.1
  · intro exit h
    rcases handleMessage_eq_error h with ⟨-, hc⟩ | ⟨-, e, -, hw, he⟩ | ⟨-, hu⟩
    · simp [hc] at hclose
    · exact .inl ⟨by simpa [makesWrite, hpayload] using hw, by simp [he]⟩
    · exact .inr hu

/-- A deserializer for two frames: `"ended"` is the end of subscription 0, any other text a data
payload. -/
def endedOrData (text : String) : Except String (WebSocketMessage String) :=
  if text = "ended" then .ok (.response (.subscriptionEnded 0)) else .ok (.blockAccountChanges text)

/-- A `SubscriptionEnded` for a subscription that was never announced, then a data frame: the
task panics at the first frame, every write succeeding, and the consumer never gets the payload
it is owed. -/
theorem realtimeMessages_stops_at_unknown_subscription :
    (realtimeMessages endedOrData (.ok ()) (.ok ())
        [⟨.ok (.text "ended"), .ok ()⟩, ⟨.ok (.text "block"), .ok ()⟩]).2 =
      .panic "subscription id in active extractors" ∧
    (realtimeMessages endedOrData (.ok ()) (.ok ())
        [⟨.ok (.text "ended"), .ok ()⟩, ⟨.ok (.text "block"), .ok ()⟩]).1.channel = [] ∧
    dataPayloads endedOrData [.ok (.text "ended"), .ok (.text "block")] = ["block"] :=
  ⟨rfl, rfl, rfl⟩

/-- Two data frames, a `Close` and a frame after it, every write succeeding: the consumer gets
both payloads and the task ends at the `Close`. -/
theorem realtimeMessages_channel_delivers :
    (realtimeMessages endedOrData (.ok ()) (.ok ())
        [⟨.ok (.text "block"), .ok ()⟩, ⟨.ok (.text "next"), .ok ()⟩, ⟨.ok .close, .ok ()⟩,
          ⟨.ok (.text "late"), .ok ()⟩]).1.channel = ["block", "next"] ∧
    (realtimeMessages endedOrData (.ok ()) (.ok ())
        [⟨.ok (.text "block"), .ok ()⟩, ⟨.ok (.text "next"), .ok ()⟩, ⟨.ok .close, .ok ()⟩,
          ⟨.ok (.text "late"), .ok ()⟩]).2 = .close := by
  obtain ⟨hchannel, hexit⟩ := (realtimeMessages_channel endedOrData (.ok ()) (.ok ())
    [⟨.ok (.text "block"), .ok ()⟩, ⟨.ok (.text "next"), .ok ()⟩, ⟨.ok .close, .ok ()⟩,
      ⟨.ok (.text "late"), .ok ()⟩]).2.1 rfl
    (fun item h _ => by
      simp only [List.takeWhile, isClose, Bool.not_false, Bool.not_true, List.mem_cons,
        List.mem_singleton, List.not_mem_nil, or_false] at h
      rcases h with rfl | rfl <;> rfl) rfl
  exact ⟨hchannel.trans rfl, hexit.trans rfl⟩

/-- **The map of active subscriptions.** After the frames the task has read, its
`active_extractors` is the replay of their subscription responses from the empty map; a
`SubscriptionEnded` aborts the task exactly when its id is not in that map; when every
`SubscriptionEnded` names an active subscription, the task aborts only on a failed write; and a
run with no `Close` whose writes all succeed and whose every `SubscriptionEnded` names an active
subscription reads the whole stream, ending with the replay of all its responses. -/
theorem realtimeMessages_activeExtractors (subscribe : Except String Unit) (items : List Inbound) :
    ((realtimeMessages decode (.ok ()) subscribe items).2 = .streamEnd →
      (realtimeMessages decode (.ok ()) subscribe items).1.activeExtractors =
        activeAfter decode (items.map (·.msg))) ∧
    (∀ (item : Inbound) (u : Uuid), endedId? decode item.msg = some u →
      (realtimeMessages decode (.ok ()) subscribe items).2 = .streamEnd →
      ((realtimeMessages decode (.ok ()) subscribe (items ++ [item])).2 =
          .panic "subscription id in active extractors" ↔
        (activeAfter decode (items.map (·.msg))).lookup u = none)) ∧
    (endsOnlyActive decode ∅ (beforeClose (items.map (·.msg))) = true →
      ∀ m, (realtimeMessages decode (.ok ()) subscribe items).2 = .panic m →
        ∃ item ∈ items, makesWrite decode item.msg = true ∧ item.write ≠ .ok ()) ∧
    ((∀ item ∈ items, isClose item.msg = false) →
      (∀ item ∈ items, makesWrite decode item.msg = true → item.write = .ok ()) →
      endsOnlyActive decode ∅ (items.map (·.msg)) = true →
      (realtimeMessages decode (.ok ()) subscribe items).2 = .streamEnd ∧
        (realtimeMessages decode (.ok ()) subscribe items).1.activeExtractors =
          activeAfter decode (items.map (·.msg))) := by
  refine ⟨loop_activeExtractors, fun item u hu h => ?_, fun hended _ h =>
    loop_panic_of_endsOnlyActive hended h, fun hclose hwrite hended =>
    loop_streamEnd_of_writes_ok _ items hclose hwrite hended⟩
  rw [realtimeMessages_of_connect, loop_append h, activeAfter,
    ← Session.initial_activeExtractors subscribe, ← loop_activeExtractors h]
  simp only [loop, handleMessage_of_endedId hu]
  cases (loop decode _ items).1.activeExtractors.lookup u <;> simp

/-- A deserializer for three frames: `"new"` announces subscription 0 of the ambient extractor,
`"ended"` ends subscription 0, any other text is a data payload. -/
def subscriptionFrames (text : String) : Except String (WebSocketMessage String) :=
  if text = "new" then .ok (.response (.newSubscription ambientExtractor 0)) else endedOrData text

/-- A subscription announced, a data frame, the subscription ended and announced again: the run
reads the whole stream and ends with subscription 0 active. -/
theorem realtimeMessages_activeExtractors_resubscribe :
    (realtimeMessages subscriptionFrames (.ok ()) (.ok ())
        [⟨.ok (.text "new"), .ok ()⟩, ⟨.ok (.text "block"), .ok ()⟩, ⟨.ok (.text "ended"), .ok ()⟩,
          ⟨.ok (.text "new"), .ok ()⟩]).2 = .streamEnd ∧
    (realtimeMessages subscriptionFrames (.ok ()) (.ok ())
        [⟨.ok (.text "new"), .ok ()⟩, ⟨.ok (.text "block"), .ok ()⟩, ⟨.ok (.text "ended"), .ok ()⟩,
          ⟨.ok (.text "new"), .ok ()⟩]).1.activeExtractors.lookup 0 = some ambientExtractor := by
  obtain ⟨hexit, hactive⟩ := (realtimeMessages_activeExtractors subscriptionFrames (.ok ())
    [⟨.ok (.text "new"), .ok ()⟩, ⟨.ok (.text "block"), .ok ()⟩, ⟨.ok (.text "ended"), .ok ()⟩,
      ⟨.ok (.text "new"), .ok ()⟩]).2.2.2 (by simp [isClose]) (by simp) rfl
  exact ⟨hexit, by rw [hactive]; rfl⟩

/-- **What the task writes to the socket.** Whatever the frames, the connection and the writes,
the task writes the `Subscribe` command of its initial state, then a prefix of one empty `Pong`
per `Ping` before the first `Close`, in arrival order; all of them when it connects, every write
succeeds and every `SubscriptionEnded` names an active subscription. It writes nothing else: no
`Unsubscribe`, and no `Pong` that echoes a `Ping`'s payload. -/
theorem realtimeMessages_sink (connect subscribe : Except String Unit) (items : List Inbound) :
    (realtimeMessages decode connect subscribe items).1.sink <+:
        (Session.initial subscribe : Session β).sink ++ pongs (items.map (·.msg)) ∧
    (connect = .ok () →
      (∀ item ∈ items.takeWhile (fun item => !isClose item.msg),
        makesWrite decode item.msg = true → item.write = .ok ()) →
      endsOnlyActive decode ∅ (beforeClose (items.map (·.msg))) = true →
      (realtimeMessages decode connect subscribe items).1.sink =
        (Session.initial subscribe : Session β).sink ++ pongs (items.map (·.msg))) := by
  refine ⟨?_, ?_⟩
  · cases connect with
    | error e => exact List.nil_prefix
    | ok _ =>
      obtain ⟨l, hl, hpre⟩ := loop_output_prefix Session.sink pongOf handleMessage_sink
        (Session.initial subscribe) items
      rw [realtimeMessages_of_connect, hl]
      exact (List.prefix_append_right_inj _).mpr hpre
  · rintro rfl hwrite hended
    exact loop_output_of_writes_ok Session.sink pongOf handleMessage_sink _ items hwrite hended

/-- A `Ping` with a payload, then a `Close`: the task writes its `Subscribe` and one empty
`Pong`. -/
theorem realtimeMessages_sink_ping :
    (realtimeMessages endedOrData (.ok ()) (.ok ())
        [⟨.ok (.ping [1]), .ok ()⟩, ⟨.ok .close, .ok ()⟩]).1.sink =
      [.command (.subscribe ambientExtractor), .pong []] :=
  ((realtimeMessages_sink endedOrData (.ok ()) (.ok ())
    [⟨.ok (.ping [1]), .ok ()⟩, ⟨.ok .close, .ok ()⟩]).2 rfl (fun item h _ => by
      simp only [List.takeWhile, isClose, Bool.not_false, Bool.not_true, List.mem_singleton] at h
      rw [h]) rfl).trans rfl

/-- **Transport errors and unreadable frames are transparent.** Removing from the inbound stream
any transport error, `Pong`, `Binary` or raw frame, or text that does not deserialize, changes
nothing of the task: not what it sends to the consumer, not what it writes, not its map of
subscriptions, and not how it ends. -/
theorem realtimeMessages_filter_inert (connect subscribe : Except String Unit)
    (items : List Inbound) :
    realtimeMessages decode connect subscribe (items.filter fun item => !isInert decode item.msg) =
      realtimeMessages decode connect subscribe items := by
  cases connect with
  | error e => rfl
  | ok _ => exact loop_filter_inert _ _

end Session

end TychoIndexer
