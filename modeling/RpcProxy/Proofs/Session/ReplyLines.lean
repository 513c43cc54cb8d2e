import RpcProxy.Proofs.Server.Reload
import RpcProxy.Proofs.Session.FilterOrder
import RpcProxy.Proofs.Session.RouterWork
import RpcProxy.Proofs.Wire.ReadBack

/-!
# What the client gets are lines

Keys and values of properties are written as they are, so a reply is a line of its own only if all
of them are words. Three sources feed them: requests that were read from the client, replies that
were read from hosts, and what the proxy adds. `Session.HoldsWritable` says that whatever a session
holds back from any of them can be written: its streams, its routers and the tasks that wait. Every
message step keeps that, provided that the messages which it brings in can be written, and filters
keep it which only make such changes (`Part.Careful`).

What is held back has to be included. A router keeps the number of a request until the host has
answered, and a task keeps a change to a reply until it runs; neither is in any message at the time,
and each ends up in one. A local reply can be given any change to its properties at all, so such a
task is asked to turn words into words.

The main result, `opened_lines`, is that all octets that are ever taken from a connection are whole
lines, each of which is read back as the response that was written. It is said of whatever is taken
at any time, since what waits for a client is taken in pieces, and a piece that ends within a line
would be a fault that the whole does not show.
-/

set_option autoImplicit false

namespace RpcProxy

/-! ## What can be written

What is asked of filters, of routers and of streams so that every response that is there can be
written as a line. A response comes from a filter, from the proxy itself or from a host, and the
three have a condition each. -/

/-- Whether the messages of an operation can be written. A change to the properties of a local reply
is not a message, but becomes part of one. -/
def StreamOp.Writable : StreamOp → Prop
  | .localReply _ update => ∀ p, Wire.areWritable p = true → Wire.areWritable (update p) = true
  | .respond r => r.isWritable = true
  | .continueDecoding | .continueEncoding | .complete | .reset | .resetConnection => True

/-- Whether the messages of a task can be written. -/
def Task.Writable : Task → Prop
  | .stream _ op | .router _ (.ask op) => op.Writable
  | .router _ .write | .router _ (.deliver _) | .closed => True

/-- Whether the messages that come from outside can be written. Octets bring none by themselves. -/
def SessionOp.Writable : SessionOp → Prop
  | .request r => r.Writable
  | .stream _ op | .ask _ op => op.Writable
  | _ => True

/-- A filter that asks only for what can be written, and makes only such changes. -/
structure Part.Careful (p : Part) : Prop where
  onRequest : ∀ view r, r.Writable → (p.onRequest view r).message.Writable ∧
    ∀ a ∈ (p.onRequest view r).asks, a.2.Writable
  onResponse : ∀ view number r, r.isWritable = true →
    (p.onResponse view number r).message.isWritable = true ∧
      ∀ a ∈ (p.onResponse view number r).asks, a.2.Writable
  onEnd : ∀ id, ∀ a ∈ (p.onEnd id).asks, a.2.Writable

/-- What a router holds back can be written: the number of the request that a reply will repeat, and
the reply once it is read. -/
structure Router.HoldsWritable (r : Router) : Prop where
  line : ∀ l value, r.line = some l → l.get? idKey = some value → Text.isWord value = true
  reply : ∀ p, r.decoder.response = some p → p.isWritable = true

/-- What a stream holds back can be written. -/
structure Stream.HoldsWritable (x : Stream) : Prop where
  request : x.request.Writable
  response : ∀ r, x.response = some r → r.isWritable = true
  routers : ∀ slot r, x.router? slot = some r → r.HoldsWritable
  filters : ∀ p ∈ x.slots.map (·.part), p.Careful

/-- What a session holds back can be written. What has been written already is of no concern; octets
that wait for the client are whole lines by then. -/
structure Session.HoldsWritable {σ : Type} (s : Session σ) : Prop where
  filters : ∀ p ∈ s.plan.parts, p.Careful
  streams : ∀ id x, s.stream? id = some x → x.HoldsWritable
  posted : ∀ t ∈ s.queue.posted, t.Writable

/-- What an event brings in can be written. -/
def StreamEvent.Feeds : StreamEvent → Prop
  | .began r => r.Writable
  | .answered r => r.isWritable = true
  | .decoding _ | .encoding _ | .wrote _ => True

/-- What an event writes is a line that is read back. -/
def StreamEvent.Lines : StreamEvent → Prop
  | .wrote octets => ∃ r : Response, octets = r.encode ∧ r.isWritable = true
  | .began _ | .decoding _ | .answered _ | .encoding _ => True

/-! ## Values

The words that the proxy adds to a response can be written whatever the request is. -/

theorem isWritable_idKey {value : String} (h : Text.isWord value = true) :
    Wire.isWritable (idKey, value) = true := by
  have hkey : idKey ≠ "" ∧ Text.isWord idKey = true ∧ '=' ∉ idKey.toList := by decide
  exact Wire.isWritable_iff.mpr ⟨hkey.1, hkey.2.1, hkey.2.2, h⟩

theorem isWord_of_find? {p : Properties} {key value : String} (h : Wire.areWritable p = true)
    (hfind : p.find? key = some value) : Text.isWord value = true :=
  (Wire.isWritable_iff.mp (Wire.areWritable_iff.mp h key value hfind)).2.2.2

theorem isWritable_closingProperty : Wire.isWritable closingProperty = true := by decide

/-- An answer that the proxy makes repeats the number of the request, which is a word. -/
theorem isWritable_ownAnswer {x : Stream} (h : x.request.Writable) (status : Status)
    {update : Change} (hupdate : (StreamOp.localReply status update).Writable) :
    (Session.ownAnswer x status update).isWritable = true := by
  unfold Session.ownAnswer Response.answering
  refine hupdate _ ?_
  cases hid : x.request.get? idKey with
  | none => rfl
  | some value => exact Wire.areWritable_insert rfl (isWritable_idKey (isWord_of_find? h.properties hid))

theorem isWord_of_ofRequest {r : Request} (h : r.Writable) {value : String}
    (hid : (RequestLine.ofRequest r).get? idKey = some value) : Text.isWord value = true :=
  isWord_of_find? h.properties hid

/-- What is written is one line, and is read back. -/
theorem Response.encode_line {r : Response} (h : r.isWritable = true) :
    ∃ line, r.encode = Bytes.ofText line ++ [Bytes.newline] ∧ Bytes.newline ∉ Bytes.ofText line ∧
      Response.parse? line = some r := by
  refine ⟨r.text, ?_, fun hmem => ?_, Response.parse?_text h⟩
  · exact (Response.encode_eq r).trans (Bytes.ofText_append r.text "\n")
  · exact Response.newline_not_mem_text h (Bytes.newline_mem_ofText hmem)

/-- Requests that are read can be written. -/
theorem Wire.writable_of_mem_decode (buffer : Bytes) :
    ∀ r, Wire.Event.request r ∈ (Wire.decode buffer).1 → r.Writable := by
  fun_induction Wire.decode buffer with
  | case1 buffer hsplit hlong => simp
  | case2 buffer hsplit hshort => simp
  | case3 buffer line rest hsplit hline => simp
  | case4 buffer line rest hsplit hline ih => exact ih
  | case5 buffer line rest hsplit r hline events left hmore ih =>
    intro r' hr'
    rcases List.mem_cons.mp hr' with heq | hr'
    · cases heq
      unfold Wire.readLine at hline
      split at hline
      · cases hline
      · dsimp only at hline
        split at hline
        · cases hline
        · split at hline
          · next hparse =>
            cases hline
            exact Request.writable_of_parse? hparse
          · cases hline
    · exact ih r' (by rw [hmore]; exact hr')

/-! ## Replies of hosts

A host sends octets. What is read from them as a reply was written as a line once, and stays
writable when it is changed for the client. -/

namespace ReplyDecoder

theorem isWritable_of_readReply {frame : Bytes} {kind : MessageType} {r : Response}
    (h : readReply frame = .ok (kind, r)) : r.isWritable = true := by
  unfold readReply at h
  split at h
  · cases h
  · dsimp only at h
    split at h
    · cases h
    · next r' hparse =>
      have hr : r'.isWritable = true := Response.isWritable_of_parse? hparse
      split at h
      · cases h
        exact hr
      · split at h
        · cases h
          exact hr
        · cases h

theorem isWritable_forClient {r : Response} (h : r.isWritable = true) :
    (forClient r).isWritable = true :=
  Response.isWritable_erase (Response.isWritable_erase (Response.isWritable_erase h _) _) _

/-- Whatever octets come, a reply that is read from them can be written. -/
theorem isWritable_feed {d : ReplyDecoder} (h : ∀ p, d.response = some p → p.isWritable = true)
    (data : Bytes) : ∀ p, (d.feed data).2.response = some p → p.isWritable = true := by
  intro p hp
  unfold feed at hp
  dsimp only at hp
  split at hp
  · exact h p hp
  · exact h p hp
  · split at hp
    · exact h p hp
    · next kind r hread =>
      obtain rfl := Option.some.inj hp
      exact isWritable_forClient (isWritable_of_readReply hread)

theorem isWritable_onData {d d' : ReplyDecoder} {e : Exchange} {data : Bytes} {last isOver : Bool}
    {now : Instant} {t : Exchange.Step} (h : ∀ p, d.response = some p → p.isWritable = true)
    (ht : e.onData Exchange.lineReplies d data last now = .ok (isOver, d', t)) :
    ∀ p, d'.response = some p → p.isWritable = true := by
  unfold Exchange.onData at ht
  split at ht
  · cases ht
  · dsimp only at ht
    -- The decoder is left alone during an upgrade, and may be started anew before it is fed.
    have hd : d' = d ∨ ∃ first : Bool, d' =
        ((if first then ReplyDecoder.start e.transport e.protocol.kind else d).feed data).2 := by
      cases hup : e.upgrading with
      | some up =>
        rw [hup] at ht
        dsimp only at ht
        split at ht
        · cases ht
          exact Or.inl rfl
        · split at ht
          · cases ht
            exact Or.inl rfl
          · cases ht
            exact Or.inl rfl
      | none =>
        rw [hup] at ht
        dsimp only at ht
        refine Or.inr ⟨!e.responseStarted, ?_⟩
        have hfed : ∀ e' : Exchange, e'.responseStarted = e.responseStarted →
            e'.transport = e.transport → e'.protocol = e.protocol →
            (e'.onResponseData Exchange.lineReplies d data now).2.1 =
              ((if !e.responseStarted then ReplyDecoder.start e.transport e.protocol.kind
                else d).feed data).2 := by
          intro e' hstarted htransport hprotocol
          rw [← hstarted, ← htransport, ← hprotocol]
          rfl
        have hread := hfed { e with upgrading := none, responseSize := e.responseSize + data.length }
          rfl rfl rfl
        generalize Exchange.onResponseData Exchange.lineReplies d data now _ = fed at ht hread
        obtain ⟨status, d₁, s₁⟩ := fed
        rw [← show d₁ = _ from hread]
        dsimp only at ht
        split at ht
        · cases ht
          rfl
        · split at ht
          · cases ht
            rfl
          · cases ht
            rfl
    rcases hd with rfl | ⟨first, rfl⟩
    · exact h
    · cases first with
      | true => exact isWritable_feed (d := ReplyDecoder.start _ _) nofun data
      | false => exact isWritable_feed h data

end ReplyDecoder

/-! ## Streams

A stream holds what can be written, and keeps it through all that does not set a response. -/

namespace Stream

variable {x y : Stream}

theorem HoldsWritable.keep (h : x.HoldsWritable) (hrequest : y.request = x.request)
    (hresponse : y.response = x.response)
    (hparts : y.slots.map (·.part) = x.slots.map (·.part))
    (hrouters : ∀ slot r, y.router? slot = some r → r.HoldsWritable) : y.HoldsWritable :=
  ⟨hrequest ▸ h.request, fun r hr => h.response r (hresponse ▸ hr), hrouters,
    fun p hp => h.filters p (hparts ▸ hp)⟩

theorem HoldsWritable.steady (h : x.HoldsWritable) (hs : x.Steady y) : y.HoldsWritable := by
  refine h.keep hs.request hs.response (by rw [hs.slots]) fun slot r hr => h.routers slot r ?_
  unfold Stream.router? at hr ⊢
  rwa [hs.slots] at hr

/-- What one filter keeps in mind is replaced. -/
theorem remember_router? {slot other : Nat} {m : Memory} {r : Router}
    (h : (x.remember slot m).router? other = some r) : m = .router r ∨ x.router? other = some r := by
  unfold Stream.router? Stream.remember at h
  unfold Stream.router?
  rw [List.getElem?_modify] at h
  cases hslot : x.slots[other]? with
  | none =>
    rw [hslot] at h
    cases h
  | some y =>
    rw [hslot] at h
    obtain ⟨part, memory⟩ := y
    by_cases hi : slot = other
    · simp only [hi, if_true, Option.map_eq_map, Option.map_some] at h
      cases m with
      | nothing => cases h
      | access entry started => cases h
      | router r' =>
        cases h
        exact Or.inl rfl
    · simp only [hi, if_false, Option.map_eq_map, Option.map_some] at h
      exact Or.inr h

theorem remember_parts (x : Stream) (slot : Nat) (m : Memory) :
    (x.remember slot m).slots.map (·.part) = x.slots.map (·.part) := by
  unfold Stream.remember
  refine List.ext_getElem? fun i => ?_
  simp only [List.getElem?_map, List.getElem?_modify]
  cases x.slots[i]? with
  | none => rfl
  | some y =>
    by_cases hi : slot = i
    · simp [hi]
    · simp [hi]

theorem HoldsWritable.remember (h : x.HoldsWritable) (slot : Nat) {m : Memory}
    (hm : ∀ r, m = .router r → r.HoldsWritable) :
    (x.remember slot m).HoldsWritable := by
  refine h.keep rfl rfl (remember_parts x slot m) fun other r hr => ?_
  rcases remember_router? hr with heq | hr
  · exact hm r heq
  · exact h.routers other r hr

end Stream

/-! ## Routers at work

A router has a decoder, and with it a reply that has been read and was not taken yet. So the
condition has to be carried through everything that a router does. -/

namespace Session

variable {σ : Type} {s s' : Session σ} {id : StreamId} {ref : RouterRef}

theorem HoldsWritable.same (h : s.HoldsWritable) (hplan : s'.plan = s.plan)
    (hstreams : s'.streams = s.streams)
    (hposted : s'.queue.posted = s.queue.posted) : s'.HoldsWritable where
  filters := hplan ▸ h.filters
  streams id x hx := by
    unfold Session.stream? at hx
    rw [hstreams] at hx
    exact h.streams id x hx
  posted := hposted ▸ h.posted

theorem HoldsWritable.post (h : s.HoldsWritable) {t : Task} (ht : t.Writable) : (s.post t).HoldsWritable where
  filters := h.filters
  streams := h.streams
  posted t' ht' := by
    rcases List.mem_append.mp ht' with ht' | ht'
    · exact h.posted t' ht'
    · rw [List.mem_singleton.mp ht']
      exact ht

theorem HoldsWritable.modifyStream {f : Stream → Stream} (h : s.HoldsWritable) (hid : ∀ x, (f x).id = x.id)
    (hf : ∀ x, s.stream? id = some x → x.HoldsWritable → (f x).HoldsWritable) :
    (s.modifyStream id f).HoldsWritable where
  filters := h.filters
  streams other y hy := by
    rw [stream?_modifyStream hid] at hy
    obtain ⟨x, hx, rfl⟩ := Option.map_eq_some_iff.mp hy
    have hxt := h.streams other x hx
    split
    · next he =>
      refine hf x ?_ hxt
      rwa [← he, stream?_id hx]
    · exact hxt
  posted := h.posted

theorem HoldsWritable.router (h : s.HoldsWritable) {r : Router} (hr : s.router? ref = some r) :
    r.HoldsWritable := by
  unfold Session.router? at hr
  split at hr
  · obtain ⟨x, hx, hr⟩ := Option.bind_eq_some_iff.mp hr
    exact (h.streams _ x hx).routers _ r hr
  · cases hr

theorem HoldsWritable.setRouter (h : s.HoldsWritable) {r : Router} (hr : r.HoldsWritable) :
    (s.setRouter ref r).HoldsWritable :=
  h.modifyStream (fun _ => rfl) fun _ _ hx =>
    hx.remember ref.slot fun r' heq => by cases heq; exact hr

theorem HoldsWritable.modifyRouter {f : Router → Router} (h : s.HoldsWritable)
    (hf : ∀ r, r.HoldsWritable → (f r).HoldsWritable) :
    (s.modifyRouter ref f).HoldsWritable := by
  unfold Session.modifyRouter
  split
  · next r hr => exact h.setRouter (hf r (h.router hr))
  · exact h

theorem HoldsWritable.effect (h : s.HoldsWritable) (e : Effect) : (s.effect ref e).HoldsWritable := by
  rw [effect_eq]
  have h₁ : (s.applied ref e).HoldsWritable := h.same rfl rfl rfl
  cases e with
  | startCall p => exact h₁.modifyRouter fun r hr => ⟨hr.line, hr.reply⟩
  | beginCall envelope => exact h₁.modifyRouter fun r hr => ⟨hr.line, hr.reply⟩
  | resume => exact h₁.post trivial
  | localReply exception close =>
    refine h₁.post (t := .router ref (.ask (.localReply _ _))) fun p hp => ?_
    split
    · refine Wire.areWritable_insertAll hp fun e he => ?_
      rw [List.mem_singleton.mp he]
      exact isWritable_closingProperty
    · exact hp
  | resetConnection => exact h₁.post trivial
  | resetStream => exact h₁.post trivial
  | addSize n => exact h₁.same rfl rfl rfl
  | report | hold | unhold | link | count | startResponse => exact h₁

theorem HoldsWritable.effects (h : s.HoldsWritable) (es : List Effect) :
    (es.foldl (Session.effect ref) s).HoldsWritable := by
  induction es generalizing s with
  | nil => exact h
  | cons e es ih => exact ih (h.effect e)

theorem HoldsWritable.takeStep (h : s.HoldsWritable) (t : Exchange.Step) :
    (s.takeStep ref t).HoldsWritable := by
  refine HoldsWritable.effects ?_ t.effects
  exact h.modifyRouter fun _ hr => ⟨hr.line, hr.reply⟩

theorem HoldsWritable.writeCall (h : s.HoldsWritable) : (s.writeCall ref).HoldsWritable := by
  unfold Session.writeCall
  split
  · exact h
  · next r hr =>
    split
    · exact h
    · split
      · exact h
      · dsimp only
        have hrt := h.router hr
        refine HoldsWritable.modifyRouter (HoldsWritable.effect (HoldsWritable.takeStep ?_ _) _) fun r hr =>
          ⟨hr.line, hr.reply⟩
        exact h.setRouter ⟨hrt.line, hrt.reply⟩

theorem HoldsWritable.refuse (h : s.HoldsWritable) (event : RouterEvent) (status : Status) :
    (s.refuse ref event status).HoldsWritable := by
  refine HoldsWritable.post (s := s.count event) ?_ (t := .router ref (.ask (.localReply status .nothing)))
    fun _ hp => hp
  exact h.same rfl rfl rfl

theorem HoldsWritable.engage (h : s.HoldsWritable) {request : Request} (hrequest : request.Writable)
    (cluster : Config.Cluster) (host : HostRef) : (s.engage ref cluster host request).2.HoldsWritable := by
  unfold Session.engage
  dsimp only
  refine HoldsWritable.takeStep ?_ _
  refine HoldsWritable.modifyRouter ?_ ?_
  · exact h.same rfl rfl rfl
  intro r hr
  refine ⟨fun l value hl hvalue => ?_, hr.reply⟩
  cases hl
  exact isWord_of_ofRequest hrequest hvalue

theorem HoldsWritable.startExchange (h : s.HoldsWritable) {request : Request} (hrequest : request.Writable)
    (cluster : Config.Cluster) (host : HostRef) :
    (s.startExchange ref cluster host request).HoldsWritable := by
  have h₁ : (s.engage ref cluster host request).2.HoldsWritable := h.engage hrequest cluster host
  unfold Session.startExchange
  split
  · next heq =>
    rw [heq] at h₁
    exact h₁.writeCall
  · next heq =>
    rw [heq] at h₁
    exact h₁

theorem HoldsWritable.route (h : s.HoldsWritable) {request : Request} (hrequest : request.Writable)
    (generation : Nat)
    (found : Option Route) : (s.route ref generation found request).2.HoldsWritable := by
  unfold Session.route
  split
  · exact h.refuse _ _
  · split
    · exact h
    · dsimp only
      generalize hs₁ : ({ s with side := _ } : Session σ) = s₁
      have h₁ : s₁.HoldsWritable := by
        rw [← hs₁]
        exact h.same rfl rfl rfl
      split
      · exact h₁.startExchange hrequest _ _
      · exact h₁.refuse _ _
      · exact h₁.refuse _ _

theorem HoldsWritable.forwardReply (h : s.HoldsWritable) : (s.forwardReply ref).HoldsWritable := by
  unfold Session.forwardReply
  split
  · exact h
  · next r hr =>
    have hrt := h.router hr
    have hset : (s.setRouter ref { r with decoder := r.decoder.take.2 }).HoldsWritable :=
      h.setRouter ⟨hrt.line, fun p hp => nomatch hp⟩
    dsimp only
    generalize s.setRouter ref { r with decoder := r.decoder.take.2 } = s₁ at hset ⊢
    split
    · exact hset.effect _
    · exact hset
    · next response _ hresponse =>
      have hwritable : response.isWritable = true := hrt.reply response hresponse
      refine hset.post (t := .router ref (.ask (.respond _))) ?_
      show Response.isWritable _ = true
      split
      · next value hvalue =>
        obtain ⟨l, hl, hvalue⟩ := Option.bind_eq_some_iff.mp hvalue
        exact Response.isWritable_set hwritable (isWritable_idKey (hrt.line l value hl hvalue))
      · exact hwritable

theorem HoldsWritable.onHostData (h : s.HoldsWritable) {r : Router} (hr : r.HoldsWritable) (e : Exchange)
    (data : Bytes) :
    (s.onHostData ref r e data).HoldsWritable := by
  unfold Session.onHostData
  split
  · exact h
  · split
    · exact h.same rfl rfl rfl
    · next isOver d t ht =>
      have hset : (s.setRouter ref { r with decoder := d }).HoldsWritable :=
        h.setRouter ⟨hr.line, ReplyDecoder.isWritable_onData hr.reply ht⟩
      dsimp only
      split
      · exact (hset.takeStep t).forwardReply
      · exact hset.takeStep t

theorem HoldsWritable.onDelivery (h : s.HoldsWritable) (d : Delivery) :
    (s.onDelivery ref d).HoldsWritable := by
  rcases onDelivery_cases s ref d with ⟨-, heq⟩ | ⟨r, e, hr, he, heq⟩
  · rw [heq]
    cases d with
    | ready link host => exact h.effect _
    | failure reason host => exact h
    | data octets => exact h
    | event event => exact h
  · rw [heq]
    cases d with
    | ready link host => exact h.takeStep _
    | failure reason host => exact h.takeStep _
    | data octets => exact h.onHostData (h.router hr) e octets
    | event event =>
      dsimp only
      unfold Session.onHostEvent
      split
      · exact h
      · split
        · exact h.same rfl rfl rfl
        · exact h.takeStep _

theorem HoldsWritable.forget (h : s.HoldsWritable) :
    (s.modifyStream ref.stream (·.remember ref.slot .nothing)).HoldsWritable :=
  h.modifyStream (fun _ => rfl) fun _ _ hx => hx.remember ref.slot fun _ heq => nomatch heq

theorem HoldsWritable.destroyRouter (h : s.HoldsWritable) : (s.destroyRouter ref).HoldsWritable := by
  unfold Session.destroyRouter
  split
  · exact h
  · split
    · exact h.forget
    · exact h.forget.effects _

theorem HoldsWritable.dropRouter (h : s.HoldsWritable) : (s.dropRouter ref).HoldsWritable := by
  unfold Session.dropRouter
  split
  · exact h
  · exact h.forget.effects _

theorem HoldsWritable.dropStream (h : s.HoldsWritable) (id : StreamId) : (s.dropStream id).HoldsWritable := by
  have hrouters : ∀ (slots : List Nat) (s : Session σ), s.HoldsWritable →
      (slots.foldl (fun s slot => s.dropRouter (s.refTo id slot)) s).HoldsWritable := by
    intro slots
    induction slots with
    | nil => exact fun _ h => h
    | cons slot rest ih =>
      intro s h
      exact ih _ h.dropRouter
  unfold Session.dropStream
  split
  · exact h
  · next x _ =>
    have h₁ := hrouters x.routers s h
    exact ⟨h₁.filters, fun other y hy => h₁.streams other y (stream?_of_filter hy), h₁.posted⟩

/-! ## Filters at work

Filters change messages. That they change one that can be written into another that can is what is
asked of them. -/

theorem HoldsWritable.afterFilter (h : s.HoldsWritable) {a : Asides} (ha : ∀ ask ∈ a.asks, ask.2.Writable) :
    (s.afterFilter a).HoldsWritable := by
  rw [afterFilter_eq]
  refine ⟨h.filters, h.streams, fun t ht => ?_⟩
  rcases List.mem_append.mp ht with ht | ht
  · exact h.posted t ht
  · obtain ⟨id, op, hin, rfl⟩ := Asides.mem_tasks.mp ht
    exact ha _ hin

theorem HoldsWritable.amend (h : s.HoldsWritable) (id : StreamId) (slot : Nat)
    (f : AccessLog.Entry → AccessLog.Entry) :
    (s.modifyStream id (·.amend slot f)).HoldsWritable := by
  refine h.modifyStream (fun _ => rfl) fun x _ hx => ?_
  have halike := Stream.Alike.amend x slot f
  exact hx.keep rfl rfl halike.parts fun i r hr => hx.routers i r (halike.routers i ▸ hr)

theorem HoldsWritable.decodeOne (h : s.HoldsWritable) {x : Stream} (hx : s.stream? x.id = some x)
    (slot : Nat) :
    (s.decodeOne x slot).2.HoldsWritable := by
  have hxt := h.streams _ x hx
  unfold Session.decodeOne
  split
  · exact h
  · next side b memory hslot =>
    have hpart : Part.Careful ⟨side, .plain b⟩ :=
      hxt.filters _ (List.mem_map.mpr ⟨_, List.mem_of_getElem? hslot, rfl⟩)
    obtain ⟨hmessage, hasks⟩ := hpart.onRequest x.view x.request hxt.request
    refine HoldsWritable.afterFilter ?_ hasks
    exact h.modifyStream (fun _ => rfl) fun y _ hy =>
      ⟨hmessage, hy.response, hy.routers, hy.filters⟩
  · exact h.amend x.id slot _
  · exact h.route hxt.request _ _

theorem HoldsWritable.encodeOne (h : s.HoldsWritable) {x : Stream} {r : Response}
    (hx : s.stream? x.id = some x)
    (hr : x.response = some r) (slot : Nat) : (s.encodeOne x r slot).2.HoldsWritable := by
  have hxt := h.streams _ x hx
  unfold Session.encodeOne
  split
  · next side b memory hslot =>
    have hpart : Part.Careful ⟨side, .plain b⟩ :=
      hxt.filters _ (List.mem_map.mpr ⟨_, List.mem_of_getElem? hslot, rfl⟩)
    obtain ⟨hmessage, hasks⟩ := hpart.onResponse x.view x.answers r (hxt.response r hr)
    refine HoldsWritable.afterFilter ?_ hasks
    refine h.modifyStream (fun _ => rfl) fun y _ hy =>
      ⟨hy.request, fun r' hr' => ?_, hy.routers, hy.filters⟩
    rw [← Option.some.inj hr']
    exact hmessage
  · exact h.amend x.id slot _
  · exact h

theorem HoldsWritable.decodeThrough (h : s.HoldsWritable) (id : StreamId) (slots : List Nat) :
    (s.decodeThrough id slots).HoldsWritable := by
  refine decodeThrough_invariant (fun s h => ?_) (fun s x slot h hx => ?_) slots s h
  · exact h.modifyStream (fun _ => rfl) fun _ _ hx => ⟨hx.request, hx.response, hx.routers, hx.filters⟩
  · exact h.decodeOne (by rw [stream?_id hx]; exact hx) slot

theorem HoldsWritable.encodeOnly (h : s.HoldsWritable) (id : StreamId) (slots : List Nat) :
    (s.encodeOnly id slots).2.HoldsWritable := by
  refine encodeOnly_invariant (fun s h => ?_) (fun s x r slot h hx hr => ?_) slots s h
  · exact h.modifyStream (fun _ => rfl) fun _ _ hx => ⟨hx.request, hx.response, hx.routers, hx.filters⟩
  · exact h.encodeOne (by rw [stream?_id hx]; exact hx) hr slot

/-! ## Message steps

One case for each step; the reply that is written is the one that the stream had. -/

theorem HoldsWritable.around (h : s.HoldsWritable) (ha : SameMessages s s') : s'.HoldsWritable where
  filters := ha.plan ▸ h.filters
  streams id y hy := by
    obtain ⟨x, hx, hsteady⟩ := ha.stream? hy
    exact (h.streams id x hx).steady hsteady
  posted t ht := by
    obtain ⟨n, hn⟩ := ha.posted
    rw [hn] at ht
    rcases List.mem_append.mp ht with ht | ht
    · exact h.posted t ht
    · rw [List.eq_of_mem_replicate ht]
      exact trivial

theorem HoldsWritable.opens {request : Request} {x : Stream} (h : s.HoldsWritable)
    (hrequest : request.Writable)
    (ho : Opens s request x s') : s'.HoldsWritable where
  filters := ho.plan ▸ h.filters
  streams id y hy := by
    rw [ho.stream?] at hy
    rcases Option.or_eq_some_iff.mp hy with hy | ⟨-, hy⟩
    · exact h.streams id y hy
    · split at hy
      · obtain rfl := Option.some.inj hy
        refine ⟨ho.request ▸ hrequest, fun r hr => ?_, fun slot r hr => ?_, fun p hp => ?_⟩
        · rw [ho.response] at hr
          cases hr
        · rcases ho.slots with ⟨hslots, -⟩ | ⟨hslots, -⟩
          · obtain rfl := start_blank hslots hr
            exact ⟨nofun, nofun⟩
          · unfold Stream.router? at hr
            rw [hslots] at hr
            cases hr
        · rcases ho.slots with ⟨hslots, -⟩ | ⟨hslots, -⟩
          · rw [start_parts hslots] at hp
            exact h.filters p hp
          · rw [hslots] at hp
            cases hp
      · cases hy
  posted := ho.posted ▸ h.posted

/-- A message step keeps a session in a state in which all messages can be written, and all that it
writes are lines. -/
theorem HoldsWritable.messageStep {as : List Act} (h : s.HoldsWritable) (hs : MessageStep as s s')
    (hfeeds : ∀ a ∈ as, a.2.Feeds) : s'.HoldsWritable ∧ ∀ a ∈ as, a.2.Lines := by
  cases hs with
  | mute hm => exact ⟨h.around hm.toSameMessages, fun a ha => nomatch ha⟩
  | called _ ref => exact ⟨h.writeCall, fun a ha => nomatch ha⟩
  | told _ ref d => exact ⟨h.onDelivery d, fun a ha => nomatch ha⟩
  | destroyed _ ref => exact ⟨h.destroyRouter, fun a ha => nomatch ha⟩
  | @parted _ id x part hx hpart =>
    have hcareful := (h.streams id x hx).filters part hpart
    exact ⟨h.afterFilter (hcareful.onEnd id), fun a ha => nomatch ha⟩
  | dropped _ id => exact ⟨h.dropStream id, fun a ha => nomatch ha⟩
  | popped hq =>
    refine ⟨⟨h.filters, h.streams, fun t ht => h.posted t ?_⟩, fun a ha => nomatch ha⟩
    rw [hq]
    exact List.mem_cons_of_mem _ ht
  | began ho =>
    refine ⟨h.opens (hfeeds _ List.mem_cons_self) ho, fun a ha => ?_⟩
    rw [List.mem_singleton.mp ha]
    exact trivial
  | @decoding _ x hx hlive =>
    refine ⟨HoldsWritable.decodeThrough ?_ x.id _, fun a ha => ?_⟩
    · refine h.modifyStream (fun y => resolve_id y _) fun y _ hy => ?_
      unfold Stream.resolve
      split
      · exact hy
      · exact ⟨hy.request, hy.response, hy.routers, hy.filters⟩
    · rw [List.mem_singleton.mp ha]
      exact trivial
  | @answered _ x hx hlive r =>
    refine ⟨h.modifyStream (fun _ => rfl) fun y _ hy => ?_, fun a ha => ?_⟩
    · refine ⟨hy.request, fun r' hr' => ?_, hy.routers, hy.filters⟩
      rw [← Option.some.inj hr']
      exact hfeeds _ List.mem_cons_self
    · rw [List.mem_singleton.mp ha]
      exact trivial
  | @encoding _ x r hx hlive hr =>
    refine ⟨h.encodeOnly x.id _, fun a ha => ?_⟩
    rw [List.mem_singleton.mp ha]
    exact trivial
  | @replied _ _ x r hr =>
    refine ⟨h.around hr.toSameMessages, fun a ha => ?_⟩
    rw [List.mem_singleton.mp ha]
    exact ⟨r, rfl, (h.streams _ x hr.found).response r hr.answer⟩

theorem HoldsWritable.messageSteps {as : List Act} {s₁ s₂ : Session σ} (h : s₁.HoldsWritable)
    (hs : MessageSteps as s₁ s₂)
    (hfeeds : ∀ a ∈ as, a.2.Feeds) : s₂.HoldsWritable ∧ ∀ a ∈ as, a.2.Lines := by
  induction hs with
  | refl s => exact ⟨h, fun a ha => nomatch ha⟩
  | snoc _ hlast ih =>
    obtain ⟨hmid, hlines⟩ := ih h fun a ha => hfeeds a (List.mem_append_left _ ha)
    obtain ⟨hend, hmore⟩ := hmid.messageStep hlast fun a ha => hfeeds a (List.mem_append_right _ ha)
    refine ⟨hend, fun a ha => ?_⟩
    rcases List.mem_append.mp ha with ha | ha
    · exact hlines a ha
    · exact hmore a ha

/-! ## What is brought in

A response that is set comes from outside, from a task or from a filter. Each event that sets one is
shown to set one that can be written. -/

/-- Nothing is brought in while a request goes on. -/
theorem decodingEvents_feeds (s : Session σ) (id : StreamId) : ∀ e ∈ s.decodingEvents id, e.Feeds := by
  intro e he
  unfold decodingEvents at he
  split at he
  · cases he
  · split at he
    · cases he
    · rw [List.mem_singleton.mp he]
      exact trivial

theorem encodingEvents_feeds (s : Session σ) (id : StreamId) : ∀ e ∈ s.encodingEvents id, e.Feeds := by
  intro e he
  unfold encodingEvents at he
  split at he
  · cases he
  · split at he
    · cases he
    · rcases List.mem_cons.mp he with rfl | he
      · exact trivial
      · unfold writeEvents at he
        generalize s.addedTo (s.continueEncoding id) = octets at he
        cases octets with
        | nil => cases he
        | cons b bs =>
          rw [List.mem_singleton.mp he]
          exact trivial

theorem answerEvents_feeds (s : Session σ) (id : StreamId) {r : Response} (h : r.isWritable = true) :
    ∀ e ∈ s.answerEvents id r, e.Feeds := by
  intro e he
  rcases List.mem_cons.mp he with rfl | he
  · exact h
  · exact encodingEvents_feeds _ id e he

theorem HoldsWritable.eventsOf_feeds (h : s.HoldsWritable) {op : StreamOp} (hop : op.Writable) :
    ∀ e ∈ s.eventsOf id op, e.Feeds := by
  cases op with
  | continueDecoding => exact decodingEvents_feeds s id
  | continueEncoding => exact encodingEvents_feeds s id
  | localReply status update =>
    unfold eventsOf
    cases hx : s.stream? id with
    | none => exact fun _ he => nomatch he
    | some x =>
      dsimp only
      split
      · exact fun _ he => nomatch he
      · exact answerEvents_feeds _ id (isWritable_ownAnswer (h.streams id x hx).request status hop)
  | respond r =>
    unfold eventsOf
    cases s.stream? id with
    | none => exact fun _ he => nomatch he
    | some x =>
      dsimp only
      split
      · exact fun _ he => nomatch he
      · exact answerEvents_feeds s id hop
  | complete | reset | resetConnection => exact fun _ he => nomatch he

theorem HoldsWritable.actsOf_feeds (h : s.HoldsWritable) {t : Task} (ht : t.Writable) :
    ∀ a ∈ s.actsOf t, a.2.Feeds := by
  have hmap : ∀ (id : StreamId) (op : StreamOp), op.Writable →
      ∀ a ∈ (s.eventsOf id op).map (id, ·), a.2.Feeds := by
    intro id op hop a ha
    obtain ⟨e, he, rfl⟩ := List.mem_map.mp ha
    exact h.eventsOf_feeds hop e he
  cases t with
  | stream id op => exact hmap id op ht
  | router ref op =>
    cases op with
    | ask op => exact hmap ref.stream op ht
    | write | deliver => exact fun _ ha => nomatch ha
  | closed => exact fun _ ha => nomatch ha

theorem beginEvents_feeds (s : Session σ) {r : Request} (hr : r.Writable) :
    ∀ e ∈ s.beginEvents r, e.Feeds := by
  intro e he
  unfold beginEvents at he
  dsimp only at he
  split at he
  · cases he
  · rcases List.mem_cons.mp he with rfl | he
    · exact hr
    · split at he
      · cases he
      · exact decodingEvents_feeds _ _ e he

theorem wireActs_feeds {es : List Wire.Event} (h : ∀ r, .request r ∈ es → r.Writable)
    (s : Session σ) : ∀ a ∈ s.wireActs es, a.2.Feeds := by
  induction es generalizing s with
  | nil => exact fun _ ha => nomatch ha
  | cons e es ih =>
    intro a ha
    rcases List.mem_append.mp ha with ha | ha
    · cases e with
      | failure => cases ha
      | request r =>
        dsimp only at ha
        split at ha
        · cases ha
        · obtain ⟨e, he, rfl⟩ := List.mem_map.mp ha
          exact beginEvents_feeds s (h r List.mem_cons_self) e he
    · exact ih (fun r hr => h r (List.mem_cons_of_mem _ hr)) _ a ha

theorem begunIn_feeds (s : Session σ) {op : SessionOp} (hop : op.Writable) :
    ∀ a ∈ s.begunIn op, a.2.Feeds := by
  cases op with
  | data octets =>
    unfold begunIn
    dsimp only
    split
    · exact wireActs_feeds (Wire.writable_of_mem_decode _) _
    · exact fun _ ha => nomatch ha
  | request r =>
    unfold begunIn
    dsimp only
    split
    · intro a ha
      obtain ⟨e, he, rfl⟩ := List.mem_map.mp ha
      exact beginEvents_feeds s hop e he
    · exact fun _ ha => nomatch ha
  | _ => exact fun _ ha => nomatch ha

/-! ## Runs

A run takes up tasks, and each of them brings in what can be written, as it was posted with that. -/

/-- The tasks of a run can be written, since those that wait can and what they post can. -/
theorem HoldsWritable.taken_feeds (h : s.HoldsWritable) (fuel : Nat) :
    ∀ m ∈ taken fuel s, ∀ a ∈ m.1.actsOf m.2, a.2.Feeds := by
  refine (runUntilIdle_history
    (P := fun h s => s.HoldsWritable ∧ ∀ m ∈ h, ∀ a ∈ m.1.actsOf m.2, a.2.Feeds) ?_ ?_ fuel [] s
    ⟨h, fun _ hm => nomatch hm⟩).2
  · rintro past s t rest hq ⟨hs, hpast⟩
    have hleave : (s.leave rest).HoldsWritable :=
      (hs.messageStep (.popped hq) fun _ ha => nomatch ha).1
    have ht : t.Writable := hs.posted t (by rw [hq]; exact List.mem_cons_self)
    have hfeeds := hleave.actsOf_feeds ht
    refine ⟨(hleave.messageSteps (runTask_messageSteps _ t) hfeeds).1, fun m hm => ?_⟩
    rcases List.mem_append.mp hm with hm | hm
    · exact hpast m hm
    · rw [List.mem_singleton.mp hm]
      exact hfeeds
  · rintro past s ⟨hs, hpast⟩
    exact ⟨(hs.messageSteps (clearDeferred_messageSteps s) fun _ ha => nomatch ha).1, hpast⟩

theorem HoldsWritable.actsIn_feeds (h : s.HoldsWritable) {op : SessionOp} (hop : op.Writable) :
    ∀ a ∈ s.actsIn op, a.2.Feeds := by
  intro a ha
  rcases List.mem_append.mp ha with ha | ha
  · exact begunIn_feeds s hop a ha
  · obtain ⟨m, hm, hin⟩ := List.mem_flatMap.mp ha
    cases op with
    | run => exact h.taken_feeds s.effort m hm a hin
    | stream id op =>
      rw [List.mem_singleton.mp hm] at hin
      exact h.actsOf_feeds (t := .stream id op) hop a hin
    | _ => cases hm

/-- Whatever happens to a session, what it holds back can be written, if the messages that come from
outside can be. -/
theorem HoldsWritable.step (h : s.HoldsWritable) (hn : s.Numbered) {op : SessionOp} (hop : op.Writable) :
    (s.step op).HoldsWritable ∧ ∀ a ∈ s.actsIn op, a.2.Lines := by
  have hsteps : (∀ id o, op ≠ .ask id o) → (∀ ref d, op ≠ .deliver ref d) →
      (s.step op).HoldsWritable ∧ ∀ a ∈ s.actsIn op, a.2.Lines := fun hask hdeliver =>
    h.messageSteps (step_messageSteps hn hask hdeliver) (h.actsIn_feeds hop)
  cases op with
  | ask id op => exact ⟨h.post (t := .stream id op) hop, fun _ ha => nomatch ha⟩
  | deliver ref d => exact ⟨h.post (t := .router ref (.deliver d)) trivial, fun _ ha => nomatch ha⟩
  | _ => exact hsteps nofun nofun

theorem HoldsWritable.after {ops : List SessionOp} (h : s.HoldsWritable) (hn : s.Numbered)
    (hops : ∀ op ∈ ops, op.Writable) : (s.after ops).HoldsWritable ∧ ∀ a ∈ s.acts ops, a.2.Lines := by
  induction ops generalizing s with
  | nil => exact ⟨h, fun _ ha => nomatch ha⟩
  | cons op ops ih =>
    obtain ⟨hstep, hlines⟩ := h.step hn (hops op List.mem_cons_self)
    obtain ⟨hafter, hmore⟩ := ih hstep (hn.after [op]) fun op hop => hops op (List.mem_cons_of_mem _ hop)
    refine ⟨hafter, fun a ha => ?_⟩
    rcases List.mem_append.mp ha with ha | ha
    · exact hlines a ha
    · exact hmore a ha

/-! ## What is taken from the connection

The client is given octets at several times. Each portion is shown to be whole lines, which is more
than that all of them together are. -/

/-- Stretches of a run, each with the side of the hosts as it is at its start, since other sessions
work on it in the meantime. After each stretch what waits for the client is taken. Answers what that
was, and what happened to messages in the stretch. -/
def takings (s : Session σ) : List (HostSide σ × List SessionOp) → List (Bytes × List Act)
  | [] => []
  | (side, ops) :: rest =>
    let s := { s with side }
    let s' := s.after ops
    (s'.connection.take.1, s.acts ops) ::
      { s' with connection := s'.connection.take.2 }.takings rest

/-- Octets are replies that some of the acts have written, in order, and each of them is a line that
is read back. -/
def AreReplies (octets : Bytes) (as : List Act) : Prop :=
  ∃ replies : List (StreamId × Response),
    (replies.map fun x => (x.1, StreamEvent.wrote x.2.encode)).Sublist as ∧
    octets = replies.flatMap (·.2.encode) ∧
    ∀ x ∈ replies, ∃ line, x.2.encode = Bytes.ofText line ++ [Bytes.newline] ∧
      Bytes.newline ∉ Bytes.ofText line ∧ Response.parse? line = some x.2

theorem AreReplies.of_lines {as : List Act} (h : ∀ a ∈ as, a.2.Lines) :
    AreReplies (as.flatMap octetsOf) as := by
  induction as with
  | nil => exact ⟨[], List.Sublist.refl [], rfl, fun _ hx => nomatch hx⟩
  | cons a as ih =>
    obtain ⟨replies, hsub, hoctets, hlines⟩ := ih fun b hb => h b (List.mem_cons_of_mem a hb)
    have hskip : octetsOf a = [] → AreReplies ((a :: as).flatMap octetsOf) (a :: as) := by
      intro hnone
      refine ⟨replies, hsub.cons a, ?_, hlines⟩
      rw [List.flatMap_cons, hnone, List.nil_append, hoctets]
    obtain ⟨id, e⟩ := a
    cases e with
    | wrote octets =>
      obtain ⟨r, rfl, hr⟩ := h (id, .wrote octets) List.mem_cons_self
      refine ⟨(id, r) :: replies, hsub.cons_cons _, ?_, fun x hx => ?_⟩
      · rw [List.flatMap_cons, List.flatMap_cons, ← hoctets]
        rfl
      · rcases List.mem_cons.mp hx with rfl | hx
        · exact Response.encode_line hr
        · exact hlines x hx
    | began | decoding | answered | encoding => exact hskip rfl

theorem AreReplies.mono {octets : Bytes} {as bs : List Act} (h : AreReplies octets as)
    (hsub : as.Sublist bs) : AreReplies octets bs := by
  obtain ⟨replies, hreplies, hrest⟩ := h
  exact ⟨replies, hreplies.trans hsub, hrest⟩

/-- Whenever something is taken from the connection of such a session, it is replies. -/
theorem HoldsWritable.takings {stretches : List (HostSide σ × List SessionOp)} (h : s.HoldsWritable)
    (hn : s.Numbered)
    (hempty : s.connection.output = [])
    (hops : ∀ x ∈ stretches, ∀ op ∈ x.2, op.Writable) :
    ∀ x ∈ s.takings stretches, AreReplies x.1 x.2 := by
  induction stretches generalizing s with
  | nil => exact fun _ hx => nomatch hx
  | cons stretch rest ih =>
    obtain ⟨side, ops⟩ := stretch
    have h₁ : ({ s with side } : Session σ).HoldsWritable := h.same rfl rfl rfl
    have hn₁ : ({ s with side } : Session σ).Numbered := hn
    obtain ⟨hafter, hlines⟩ := h₁.after hn₁ (hops _ List.mem_cons_self)
    have haccounted : Accounted s.connection.written (({ s with side } : Session σ).acts ops)
        (({ s with side } : Session σ).after ops) :=
      after_messageSteps (P := Accounted s.connection.written) (fun _ _ _ _ _ hs h => h.messageSteps hs)
        (fun _ _ _ h => ⟨h.output, h.count⟩) ops [] _ hn₁ ⟨⟨[], List.suffix_refl [], hempty⟩, rfl⟩
    intro x hx
    rcases List.mem_cons.mp hx with rfl | hx
    · obtain ⟨kept, hkept, houtput⟩ := haccounted.output
      dsimp only [Downstream.take]
      rw [houtput]
      exact (AreReplies.of_lines fun a ha => hlines a (hkept.subset ha)).mono hkept.sublist
    · refine ih ?_ ?_ rfl (fun y hy => hops y (List.mem_cons_of_mem _ hy)) x hx
      · exact hafter.same rfl rfl rfl
      · exact hn₁.after ops

/-! ## Filters that add nothing

The filters of a configuration that ask for nothing which could not be written. -/

end Session

/-- The names of filters that add no properties of their own. -/
def plainFilters : List String := ["direct_response", "access_log", routerName]

theorem Part.Careful.directResponse (side : Side) : Part.Careful ⟨side, .plain directResponse⟩ where
  onRequest view r hr := by
    show (RpcProxy.directResponse.onRequest view r).message.Writable ∧
      ∀ a ∈ (RpcProxy.directResponse.onRequest view r).asks, a.2.Writable
    rcases directResponse_cases view r with heq | ⟨status, heq⟩
    · rw [heq]
      exact ⟨hr, fun _ ha => nomatch ha⟩
    · rw [heq]
      refine ⟨hr, fun a ha => ?_⟩
      rw [List.mem_singleton.mp ha]
      exact fun _ hp => hp
  onResponse _ _ _ hr := ⟨hr, fun _ ha => nomatch ha⟩
  onEnd id a ha := by
    have hnone : Behaviour.atEnd RpcProxy.directResponse side id = {} := by cases side <;> rfl
    rw [show (Part.onEnd ⟨side, .plain RpcProxy.directResponse⟩ id) = {} from hnone] at ha
    cases ha

theorem Part.Careful.accessLog (side : Side) (sink : AccessSink) :
    Part.Careful ⟨side, .accessLog sink⟩ where
  onRequest _ _ hr := ⟨hr, fun _ ha => nomatch ha⟩
  onResponse _ _ _ hr := ⟨hr, fun _ ha => nomatch ha⟩
  onEnd _ _ ha := nomatch ha

theorem Part.Careful.router (side : Side) (generation : Nat) :
    Part.Careful ⟨side, .router generation⟩ where
  onRequest _ _ hr := ⟨hr, fun _ ha => nomatch ha⟩
  onResponse _ _ _ hr := ⟨hr, fun _ ha => nomatch ha⟩
  onEnd _ _ ha := nomatch ha

theorem FilterRegistry.build_careful {generation : Nat} {faults : FileFaults} {f : Config.Filter}
    {parts : List Part} (hname : f.name ∈ plainFilters)
    (h : (FilterRegistry.routing generation).build faults f = .ok parts) : ∀ p ∈ parts, p.Careful := by
  have hone : ∀ {p : Part}, p.Careful → parts = [p] → ∀ q ∈ parts, q.Careful := by
    intro p hp hparts q hq
    rw [hparts] at hq
    rw [List.mem_singleton.mp hq]
    exact hp
  unfold FilterRegistry.build at h
  rw [find?_routing] at h
  by_cases hrouter : f.name = routerName
  · rw [if_pos hrouter] at h
    cases h
    exact hone (.router _ _) rfl
  · rw [if_neg hrouter] at h
    -- Of the filters named, the router is built by its own rule and the others are built in.
    have hcases : f.name = "direct_response" ∨ f.name = "access_log" := by
      simpa [plainFilters, hrouter] using hname
    dsimp only at h
    unfold builtIn at h
    rcases hcases with hcase | hcase
    · rw [hcase] at h
      cases h
      exact hone (.directResponse _) rfl
    · rw [hcase] at h
      dsimp only at h
      generalize (f.string? "path").bind faults = fault at h
      cases fault with
      | some reason => cases h
      | none =>
        cases h
        exact hone (.accessLog _ _) rfl

theorem mapM_build_careful {generation : Nat} {faults : FileFaults} {fs : List Config.Filter}
    {parts : List (List Part)} (hnames : ∀ f ∈ fs, f.name ∈ plainFilters)
    (h : fs.mapM ((FilterRegistry.routing generation).build faults) = .ok parts) :
    ∀ p ∈ parts.flatten, p.Careful := by
  induction fs generalizing parts with
  | nil =>
    cases h
    exact fun _ hp => nomatch hp
  | cons f fs ih =>
    rw [List.mapM_cons] at h
    cases hf : (FilterRegistry.routing generation).build faults f with
    | error e => simp [hf, bind, Except.bind] at h
    | ok ps =>
      cases hfs : fs.mapM ((FilterRegistry.routing generation).build faults) with
      | error e => simp [hf, hfs, bind, Except.bind] at h
      | ok rest =>
        obtain rfl : parts = ps :: rest := by
          simpa [hf, hfs, bind, Except.bind, pure, Except.pure, eq_comm] using h
        intro p hp
        rw [List.flatten_cons] at hp
        rcases List.mem_append.mp hp with hp | hp
        · exact FilterRegistry.build_careful (hnames f List.mem_cons_self) hf p hp
        · exact ih (fun g hg => hnames g (List.mem_cons_of_mem _ hg)) hfs p hp

/-- A listener gets a router if it needs one, which adds nothing either. -/
theorem Plan.careful_of_ofListener {generation : Nat} {faults : FileFaults} {l : Config.Listener}
    {plan : Plan} (h : Plan.ofListener (.routing generation) faults l = .ok plan)
    (hnames : ∀ f ∈ l.filters, f.name ∈ plainFilters) : ∀ p ∈ plan.parts, p.Careful := by
  obtain ⟨codec, routes, parts, -, -, hparts, rfl⟩ := Plan.ofConfig_eq_ok_iff.1 h
  refine mapM_build_careful (fun f hf => ?_) hparts
  unfold Config.Listener.withRouter at hf
  split at hf
  · rcases List.mem_append.mp hf with hf | hf
    · exact hnames f hf
    · rw [List.mem_singleton.mp hf]
      decide
  · exact hnames f hf

namespace Session

/-- What clients get are lines. A listener has only filters that add nothing, in any order. A
connection of a client was opened there, and things have happened to it in any order: octets came
from the client and from hosts, connections came up and went down, and tasks ran, while other
sessions used the same hosts. What waited for the client was taken from time to time.

Everything that was ever taken is replies, one behind another: each is a line with one newline, at
its end, and the line is read back as the very response that was written for a stream. -/
theorem opened_lines {σ : Type} (generation : Nat) (faults : FileFaults) (l : Config.Listener)
    (plan : Plan) (hplan : Plan.ofListener (.routing generation) faults l = .ok plan)
    (hfilters : ∀ f ∈ l.filters, f.name ∈ plainFilters) (number : Nat) (flags : Flags)
    (source : PoolSource σ) (side : HostSide σ) (stats : ListenerStats) (clock : Clock)
    (stretches : List (HostSide σ × List SessionOp))
    (hops : ∀ x ∈ stretches, ∀ op ∈ x.2, op.Writable) :
    ∀ x ∈ (opened number plan flags source side stats clock).takings stretches,
      AreReplies x.1 x.2 := by
  refine HoldsWritable.takings ⟨Plan.careful_of_ofListener hplan hfilters, ?_, ?_⟩ ?_ rfl hops
  · exact fun _ _ hx => nomatch hx
  · exact fun _ ht => nomatch ht
  · exact opened_numbered number plan flags source side stats clock

/-- The message of a host's reply holds a newline, which was escaped and is again. -/
theorem opened_lines_escaped :
    let l : Config.Listener :=
      { name := "edge", address := "127.0.0.1:0"
        filters := [{ name := "access_log" }, { name := "direct_response" }]
        routes := [{ name := "all", cluster := some "c" }] }
    let host : HostRef := { address := "h:1", cluster := "c" }
    let side : HostSide TcpPools :=
      { generations := [{ list := [{ config := { name := "c", hosts := ["h:1"]
                                                 transport := .unframed }
                                     hosts := [{ address := "h:1", cluster := "c" }] }] }],
        pools := { pools := [{ host, most := 1, idle := [0] }], links := [{ pool := 0 }],
                   current := StringMap.insert {} host.label 0 } }
    let ref : RouterRef := { stream := 0, slot := 2 }
    let reply := Bytes.ofText "ok \"two\\nlines\" draining=true\n"
    let ops : List SessionOp :=
      [.data (Bytes.ofText "users get id=7\n"), .deliver ref (.data reply), .run]
    ∃ plan, Plan.ofListener (.routing 0) (fun _ => none) l = .ok plan ∧
      let taken := (opened 0 plan {} TcpPools.source side (.start "edge" 0) {}).takings [(side, ops)]
      taken.map (·.1) = [Bytes.ofText "ok \"two\\nlines\" id=7\n"] ∧
      ∀ x ∈ taken, AreReplies x.1 x.2 := by
  intro l host side ref reply ops
  refine ⟨_, rfl, by decide +kernel, opened_lines 0 (fun _ => none) l _ rfl (by decide) 0 {} _ side _ _
    [(side, ops)] ?_⟩
  intro x hx op hop
  rw [List.mem_singleton.mp hx] at hop
  have hcases : op = .data (Bytes.ofText "users get id=7\n") ∨ op = .deliver ref (.data reply) ∨
      op = .run := by simpa [ops] using hop
  rcases hcases with rfl | rfl | rfl
  · exact trivial
  · exact trivial
  · exact trivial

end Session

end RpcProxy
