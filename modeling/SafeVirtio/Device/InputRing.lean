import SafeVirtio.Device.InitOrder
import SafeVirtio.Queue.Device
import SafeVirtio.Lib.Channel

/-!
# The input driver's event ring

`VirtIOInput` keeps all 32 slots of `event_buf` posted on its event queue: `new` posts slot `i`
under token `i`, and `pop_pending_event` takes the completion at `last_seen_used`, reads the
event the device wrote into that token's slot and posts the slot again, expecting `add` to hand
the same token back.  `InputSystem` puts the driver together with the device's side of the event
queue (`DeviceQueue`) and the memory the device writes events into; the device reads the
available ring in order and completes the slots it has read in any order, once each, writing an
event into the slot's buffer first.

`Posted` is the invariant of that system: the free deque is empty, no position was popped out of
order, the descriptor table holds the 32 slot descriptors, and every token is in exactly one
stage (published and unread, read by the device, or completed and not yet taken).  It says that
the used ring never holds more than 32 completions, so the device never overwrites one, and
that the completion at `last_seen_used` is always the oldest.  Over it the driver is a
first-in first-out channel of events (`step_simulates`): each completion writes an event, each
call of `pop_pending_event` returns the oldest event not yet returned, or reports that there is
none; a call whose notification fails returns that error after having taken the event.
-/

namespace SafeVirtio

namespace VirtIOInput

variable {hal : Hal} {eventBuf : ℕ} {queueIdx : UInt16}

theorem postEventBufs_postedUpTo : ∀ (n i : ℕ), i + n = QUEUE_SIZE →
    postEventBufs hal eventBuf i n
        (VirtIoQueue.postedUpTo QUEUE_SIZE (eventDescriptor hal eventBuf) queueIdx i) =
      some (.ok (VirtIoQueue.postedUpTo QUEUE_SIZE (eventDescriptor hal eventBuf) queueIdx
        QUEUE_SIZE))
  | 0, i, h => by
    rw [postEventBufs, show i = QUEUE_SIZE by omega]
  | n + 1, i, h => by
    rw [postEventBufs, VirtIoQueue.postedUpTo_add (by decide) (by omega)]
    simp only [ne_eq, not_true_eq_false, if_false]
    exact postEventBufs_postedUpTo n (i + 1) (by omega)

theorem postEventBufs_init :
    postEventBufs hal eventBuf 0 QUEUE_SIZE (VirtIoQueue.init QUEUE_SIZE queueIdx) =
      some (.ok (VirtIoQueue.postedUpTo QUEUE_SIZE (eventDescriptor hal eventBuf) queueIdx
        QUEUE_SIZE)) := by
  rw [← VirtIoQueue.postedUpTo_zero (eventDescriptor hal eventBuf)]
  exact postEventBufs_postedUpTo QUEUE_SIZE 0 (by omega)

theorem new_returns (hal : Hal) (transport : MmioTransport) (eventBuf : ℕ) :
    IoLog.Returns (new hal transport eventBuf) fun input ↦
      input.eventQueue =
          VirtIoQueue.postedUpTo QUEUE_SIZE (eventDescriptor hal eventBuf) QUEUE_EVENT QUEUE_SIZE ∧
        input.eventBuf = eventBuf := by
  unfold new
  refine IoLog.Returns.onError ?_
  refine IoLog.Returns.bind_any fun _ ↦ ?_
  refine IoLog.Returns.bind (VirtIoQueue.new_returns _ _ _ _) fun eventQueue hevent ↦ ?_
  refine IoLog.Returns.bind_any fun _ ↦ ?_
  refine IoLog.Returns.bind
    (IoLog.Returns.ofOption (P := (· = VirtIoQueue.postedUpTo QUEUE_SIZE
      (eventDescriptor hal eventBuf) QUEUE_EVENT QUEUE_SIZE))
      fun q hq ↦ ?_) fun q hq ↦ ?_
  · rw [hevent, postEventBufs_init] at hq
    exact (Except.ok.inj (Option.some.inj hq)).symm
  · dsimp only
    refine IoLog.Returns.ite (fun _ ↦ ?_) fun _ ↦ ?_
    · refine IoLog.Returns.bind_any fun _ ↦ ?_
      exact IoLog.Returns.bind_any fun _ ↦
        IoLog.Returns.pure ⟨hq, rfl⟩
    · exact IoLog.Returns.bind_any fun _ ↦
        IoLog.Returns.pure ⟨hq, rfl⟩

end VirtIOInput

/-- The input driver, the device's side of its event queue, and the memory the device writes
events into, by physical address. -/
structure InputSystem where
  input : VirtIOInput
  device : DeviceQueue
  mem : UInt64 → InputEvent

/-- A call of the driver, or a move of the device. -/
inductive InputMove
  /-- `pop_pending_event`, against a register file. -/
  | popPendingEvent (o : IoLog.Oracle Access UInt32 VirtIoError) (h : List Access)
  /-- `ack_interrupt`, which reaches only the registers. -/
  | ackInterrupt
  /-- The device reads the next published slot. -/
  | fetch
  /-- The device writes an event into a slot it has read, then completes the slot. -/
  | complete (head : UInt16) (len : UInt32) (event : InputEvent)

namespace InputSystem

open VirtIOInput (QUEUE_SIZE QUEUE_EVENT eventDescriptor)

variable (hal : Hal)

/-- The physical address of `event_buf[t]`. -/
def slotAddr (eventBuf t : ℕ) : UInt64 := (eventDescriptor hal eventBuf t).addr

/-- The event in the slot of the completion at `last_seen_used`, if there is one. -/
def frontEvent (s : InputSystem) : Option InputEvent :=
  s.input.eventQueue.peekUsed.map fun token ↦ s.mem (slotAddr hal s.input.eventBuf token.toNat)

/-- What a call of `pop_pending_event` shows of the event stream: the event it returned, that
there was none, or, for a call that failed, the event it had taken. -/
def popObs (front : Option InputEvent) :
    VirtIoResult (Option InputEvent) → List (Channel.Obs InputEvent)
  | .ok none => [.empty]
  | .ok (some event) => [.read event]
  | .error _ => (front.map .lost).toList

/-- One move; `none` when the driver panics or the device's move is not enabled. -/
def step (s : InputSystem) : InputMove → Option (InputSystem × List (Channel.Obs InputEvent))
  | .popPendingEvent o h =>
    match ((VirtIOInput.popPendingEvent hal s.mem s.input).run o h).1 with
    | .ok (r, input) => some ({ s with input }, popObs (frontEvent hal s) r)
    | _ => none
  | .ackInterrupt => some (s, [])
  | .fetch =>
    (DeviceQueue.fetch s.input.eventQueue s.device).map fun device ↦ ({ s with device }, [])
  | .complete head len event =>
    (DeviceQueue.complete s.input.eventQueue s.device head len).map fun (q, device) ↦
      ({ input := { s.input with eventQueue := q }, device,
         mem := Function.update s.mem (s.input.eventQueue.descriptorTable head.toNat).addr event },
       [.write event])

/-- The states right after `new` returned, before the device has read anything. -/
def Initial (eventBuf : ℕ) (s : InputSystem) : Prop :=
  s.input.eventQueue =
      VirtIoQueue.postedUpTo QUEUE_SIZE (eventDescriptor hal eventBuf) QUEUE_EVENT QUEUE_SIZE ∧
    s.input.eventBuf = eventBuf ∧ s.device = ⟨0, []⟩

/-- The slots published on the available ring that the device has not read, oldest first. -/
def unread (q : VirtIoQueue QUEUE_SIZE) (d : DeviceQueue) : List UInt16 :=
  (WrapWindow.window d.nextAvail (q.availRing.idx - d.nextAvail).toNat).map fun p ↦
    q.availRing.ring (p.toNat % QUEUE_SIZE)

/-- The ids of the completions the driver has not taken, oldest first. -/
def completed (q : VirtIoQueue QUEUE_SIZE) : List UInt32 :=
  q.usedWindow.map fun p ↦ (q.usedRing.ring (p.toNat % QUEUE_SIZE)).id

/-- The events of those completions: what the driver has still to return. -/
def pending (s : InputSystem) : List InputEvent :=
  (completed s.input.eventQueue).map fun id ↦ s.mem (slotAddr hal s.input.eventBuf id.toNat)

/-- The tokens of the three stages: published and unread, read by the device, completed. -/
def stages (s : InputSystem) : List ℕ :=
  (unread s.input.eventQueue s.device).map UInt16.toNat ++ s.device.inFlight.map UInt16.toNat ++
    (completed s.input.eventQueue).map UInt32.toNat

/-- Every slot of `event_buf` has a physical address of its own. -/
def SlotsDistinct (eventBuf : ℕ) : Prop :=
  ∀ i < QUEUE_SIZE, ∀ j < QUEUE_SIZE, slotAddr hal eventBuf i = slotAddr hal eventBuf j → i = j

/-- Every slot is posted: none is free, none was popped out of order, the table holds the slot
descriptors, and every token is in exactly one stage. -/
structure Posted (s : InputSystem) : Prop where
  free : s.input.eventQueue.availDescIndex = []
  poped : s.input.eventQueue.popedUsed = ∅
  table : ∀ t < QUEUE_SIZE,
    s.input.eventQueue.descriptorTable t = eventDescriptor hal s.input.eventBuf t
  perm : (stages s).Perm (List.range QUEUE_SIZE)

variable {hal}

theorem perm_move_front {α : Type} (a : α) (l₁ l₂ l₃ : List α) :
    (l₁ ++ (l₂ ++ [a]) ++ l₃).Perm (a :: (l₁ ++ l₂ ++ l₃)) := by
  have h : (l₁ ++ l₂ ++ a :: l₃).Perm (a :: (l₁ ++ l₂ ++ l₃)) := List.perm_middle
  simpa only [List.append_assoc, List.singleton_append] using h

theorem length_unread (q : VirtIoQueue QUEUE_SIZE) (d : DeviceQueue) :
    (unread q d).length = (q.availRing.idx - d.nextAvail).toNat := by
  simp [unread]

theorem length_completed (q : VirtIoQueue QUEUE_SIZE) : (completed q).length = q.skip := by
  simp [completed, VirtIoQueue.usedWindow]

namespace Posted

variable {s : InputSystem}

theorem lt (hs : Posted hal s) {x : ℕ} (hx : x ∈ stages s) : x < QUEUE_SIZE :=
  List.mem_range.mp (hs.perm.subset hx)

theorem length (hs : Posted hal s) :
    (unread s.input.eventQueue s.device).length + s.device.inFlight.length +
      (completed s.input.eventQueue).length = QUEUE_SIZE := by
  have h := hs.perm.length_eq
  simp only [stages, List.length_append, List.length_map, List.length_range] at h
  exact h

theorem inFlight_lt (hs : Posted hal s) {t : UInt16} (ht : t ∈ s.device.inFlight) :
    t.toNat < QUEUE_SIZE :=
  hs.lt (by simp only [stages, List.mem_append, List.mem_map]; exact .inl (.inr ⟨t, ht, rfl⟩))

theorem completed_lt (hs : Posted hal s) {id : UInt32} (hid : id ∈ completed s.input.eventQueue) :
    id.toNat < QUEUE_SIZE :=
  hs.lt (by simp only [stages, List.mem_append, List.mem_map]; exact .inr ⟨id, hid, rfl⟩)

theorem completed_ne_inFlight (hs : Posted hal s) {id : UInt32} {t : UInt16}
    (hid : id ∈ completed s.input.eventQueue) (ht : t ∈ s.device.inFlight) :
    id.toNat ≠ t.toNat := by
  have hnodup := hs.perm.nodup_iff.mpr List.nodup_range
  simp only [stages, List.nodup_append, List.mem_append, List.mem_map] at hnodup
  exact fun heq ↦ hnodup.2.2 _ (.inr ⟨t, ht, rfl⟩) _ ⟨id, hid, rfl⟩ heq.symm

theorem skip_lt (hs : Posted hal s) {t : UInt16} (ht : t ∈ s.device.inFlight) :
    s.input.eventQueue.skip < QUEUE_SIZE := by
  have hlen := hs.length
  have hpos := List.length_pos_of_mem ht
  rw [length_completed] at hlen
  omega

theorem unread_lt (hs : Posted hal s) (hne : completed s.input.eventQueue ≠ []) :
    (s.input.eventQueue.availRing.idx - s.device.nextAvail).toNat < QUEUE_SIZE := by
  have hlen := hs.length
  have hpos := List.length_pos_of_ne_nil hne
  rw [length_unread] at hlen
  omega

end Posted

/-! ## What each move does -/

theorem posted_initial {eventBuf : ℕ} {s : InputSystem} (h : Initial hal eventBuf s) :
    Posted hal s := by
  obtain ⟨hq, hbuf, hdev⟩ := h
  have hunread : (unread s.input.eventQueue s.device).map UInt16.toNat = List.range QUEUE_SIZE := by
    simp only [unread, hq, hdev, VirtIoQueue.postedUpTo]
    decide
  have hcompleted : completed s.input.eventQueue = [] := by
    simp [completed, hq, VirtIoQueue.postedUpTo, VirtIoQueue.usedWindow, VirtIoQueue.skip,
      VirtIoQueue.init]
  refine ⟨by rw [hq]; rfl, by rw [hq]; rfl, fun t ht ↦ ?_, ?_⟩
  · simp [hq, hbuf, VirtIoQueue.postedUpTo, ht]
  · rw [stages, hunread, hcompleted, hdev]
    simp

theorem posted_fetch {s : InputSystem} {d : DeviceQueue} (hs : Posted hal s)
    (h : DeviceQueue.fetch s.input.eventQueue s.device = some d) :
    Posted hal { s with device := d } := by
  unfold DeviceQueue.fetch at h
  split_ifs at h with hne
  cases h
  set x := s.input.eventQueue.availRing.ring (s.device.nextAvail.toNat % QUEUE_SIZE)
  have hunread : unread s.input.eventQueue s.device = x :: unread s.input.eventQueue
      { nextAvail := s.device.nextAvail + 1, inFlight := s.device.inFlight ++ [x] } := by
    simp only [unread]
    rw [WrapWindow.window_sub_of_ne hne, List.map_cons]
  refine ⟨hs.free, hs.poped, hs.table, ?_⟩
  refine List.Perm.trans ?_ hs.perm
  simp only [stages, hunread, List.map_cons, List.map_append, List.map_nil, List.cons_append]
  exact perm_move_front _ _ _ _

/-- A completion adds its slot at the end of the waiting ones; while fewer than 32 wait, the
used ring has room, so the entries of the waiting ones are untouched. -/
theorem completed_pushUsed {q : VirtIoQueue QUEUE_SIZE} (hskip : q.skip < QUEUE_SIZE)
    (head : UInt16) (len : UInt32) :
    completed { q with usedRing := DeviceQueue.pushUsed QUEUE_SIZE q.usedRing head len } =
      completed q ++ [head.toUInt32] := by
  have hdvd : QUEUE_SIZE ∣ 2 ^ 16 := by decide
  have hn : (q.usedRing.idx - q.lastSeenUsed).toNat < QUEUE_SIZE := hskip
  have hroom : (q.usedRing.idx - q.lastSeenUsed).toNat + 1 < 2 ^ 16 := by
    simp only [QUEUE_SIZE] at hn
    omega
  simp only [completed, VirtIoQueue.usedWindow, VirtIoQueue.skip, DeviceQueue.pushUsed]
  rw [WrapWindow.window_sub_succ_right hroom, List.map_append, List.map_singleton]
  congr 1
  · apply List.map_congr_left
    intro p hp
    have hslot := WrapWindow.slot_ne_of_mem_window hdvd hn hp
    rw [WrapWindow.add_toNat_sub] at hslot
    rw [Function.update_of_ne hslot]
  · simp

/-- The device completes a slot it has read, after writing an event into the slot's buffer:
the slot moves to the third stage and the event joins the stream. -/
theorem complete_simulates {s s' : InputSystem} {head : UInt16} {len : UInt32}
    {event : InputEvent} {obs : List (Channel.Obs InputEvent)}
    (hslots : SlotsDistinct hal s.input.eventBuf) (hs : Posted hal s)
    (h : step hal s (.complete head len event) = some (s', obs)) :
    Posted hal s' ∧ s'.input.eventBuf = s.input.eventBuf ∧
      IoLog.Monitor.run Channel.step (pending hal s) obs = some (pending hal s') := by
  obtain ⟨⟨q, d⟩, hc, hres⟩ := Option.map_eq_some_iff.mp h
  unfold DeviceQueue.complete at hc
  split_ifs at hc with hhead
  cases hc
  cases hres
  have hcomp := completed_pushUsed (hs.skip_lt hhead) head len
  have hlt := hs.inFlight_lt hhead
  have haddr : (s.input.eventQueue.descriptorTable head.toNat).addr =
      slotAddr hal s.input.eventBuf head.toNat := by
    rw [hs.table _ hlt, slotAddr]
  refine ⟨⟨hs.free, hs.poped, hs.table, ?_⟩, rfl, ?_⟩
  · refine List.Perm.trans ?_ hs.perm
    have hI := (List.perm_cons_erase hhead).map UInt16.toNat
    rw [List.map_cons] at hI
    simp only [stages, hcomp, List.map_append, List.map_singleton, UInt16.toNat_toUInt32]
    calc _ = (unread s.input.eventQueue s.device).map UInt16.toNat ++
            (s.device.inFlight.erase head).map UInt16.toNat ++
            (completed s.input.eventQueue).map UInt32.toNat ++ [head.toNat] := by
          simp only [List.append_assoc]
          rfl
      List.Perm _ (head.toNat :: ((unread s.input.eventQueue s.device).map UInt16.toNat ++
            (s.device.inFlight.erase head).map UInt16.toNat ++
            (completed s.input.eventQueue).map UInt32.toNat)) := List.perm_append_singleton _ _
      List.Perm _ ((unread s.input.eventQueue s.device).map UInt16.toNat ++
            (head.toNat :: (s.device.inFlight.erase head).map UInt16.toNat) ++
            (completed s.input.eventQueue).map UInt32.toNat) := by
          simpa only [List.append_assoc, List.cons_append] using List.perm_middle.symm
      List.Perm _ _ := (hI.symm.append_left _).append_right _
  · have hpending : pending hal { s with
        input := { s.input with eventQueue :=
          { s.input.eventQueue with
            usedRing := DeviceQueue.pushUsed QUEUE_SIZE s.input.eventQueue.usedRing head len } }
        device := { s.device with inFlight := s.device.inFlight.erase head }
        mem := Function.update s.mem (s.input.eventQueue.descriptorTable head.toNat).addr event } =
        pending hal s ++ [event] := by
      simp only [pending, hcomp, List.map_append, List.map_singleton, UInt16.toNat_toUInt32, haddr,
        Function.update_self]
      congr 1
      apply List.map_congr_left
      intro id hid
      have hne : slotAddr hal s.input.eventBuf id.toNat ≠
          slotAddr hal s.input.eventBuf head.toNat := fun heq ↦
        hs.completed_ne_inFlight hid hhead (hslots _ (hs.completed_lt hid) _ hlt heq)
      rw [Function.update_of_ne hne]
    rw [hpending]
    simp [Channel.step]

/-- The event queue after `pop_pending_event` took the completion at `last_seen_used` and posted
its slot `token` again. -/
def repost (q : VirtIoQueue QUEUE_SIZE) (token : UInt16) : VirtIoQueue QUEUE_SIZE :=
  { q with
    lastSeenUsed := q.lastSeenUsed + 1
    availRing := { q.availRing with
      ring := Function.update q.availRing.ring (q.availRing.idx.toNat % QUEUE_SIZE) token
      idx := q.availRing.idx + 1
      usedEvent := q.lastSeenUsed + 1 } }

theorem completed_repost {q : VirtIoQueue QUEUE_SIZE} (hne : q.lastSeenUsed ≠ q.usedRing.idx)
    (token : UInt16) :
    completed q = (q.usedRing.ring (q.lastSeenUsed.toNat % QUEUE_SIZE)).id ::
      completed (repost q token) := by
  simp only [completed, VirtIoQueue.usedWindow, VirtIoQueue.skip, repost]
  rw [WrapWindow.window_sub_of_ne hne, List.map_cons]

/-- Posting the slot again adds it at the end of the unread ones; while fewer than 32 are
unread, the available ring has room, so the entries of the unread ones are untouched. -/
theorem unread_repost {q : VirtIoQueue QUEUE_SIZE} {d : DeviceQueue}
    (hroom : (q.availRing.idx - d.nextAvail).toNat < QUEUE_SIZE) (token : UInt16) :
    unread (repost q token) d = unread q d ++ [token] := by
  have hdvd : QUEUE_SIZE ∣ 2 ^ 16 := by decide
  have hroom' : (q.availRing.idx - d.nextAvail).toNat + 1 < 2 ^ 16 := by
    simp only [QUEUE_SIZE] at hroom
    omega
  simp only [unread, repost]
  rw [WrapWindow.window_sub_succ_right hroom', List.map_append, List.map_singleton]
  congr 1
  · apply List.map_congr_left
    intro p hp
    have hslot := WrapWindow.slot_ne_of_mem_window hdvd hroom hp
    rw [WrapWindow.add_toNat_sub] at hslot
    rw [Function.update_of_ne hslot]
  · simp

/-- The token `peek_used` reports is the id of the first waiting completion, a slot of the
table. -/
theorem peek_token {s : InputSystem} {token : UInt16} (hs : Posted hal s)
    (hpeek : s.input.eventQueue.peekUsed = some token) :
    s.input.eventQueue.lastSeenUsed ≠ s.input.eventQueue.usedRing.idx ∧
      token.toNat = (s.input.eventQueue.usedRing.ring
        (s.input.eventQueue.lastSeenUsed.toNat % QUEUE_SIZE)).id.toNat ∧
      token.toNat < QUEUE_SIZE := by
  obtain ⟨hne, htoken⟩ := VirtIoQueue.peekUsed_eq_some hpeek
  have hid := hs.completed_lt (by rw [completed_repost hne token]; exact List.mem_cons_self)
  have htokNat : token.toNat = (s.input.eventQueue.usedRing.ring
      (s.input.eventQueue.lastSeenUsed.toNat % QUEUE_SIZE)).id.toNat := by
    rw [← htoken, UInt32.toNat_toUInt16]
    exact Nat.mod_eq_of_lt (lt_trans hid (by decide))
  exact ⟨hne, htokNat, htokNat ▸ hid⟩

/-- `pop_pending_event` once `pop_used` and `add` have gone through: it returns the event it read
or, when the notification fails, that error, with the queue `add` left in both cases. -/
theorem popPendingEvent_of {mem : UInt64 → InputEvent} {input : VirtIOInput} {token : UInt16}
    {len : UInt32} {q₁ q₂ : VirtIoQueue QUEUE_SIZE}
    (hpeek : input.eventQueue.peekUsed = some token)
    (hpop : input.eventQueue.popUsed token = some (.ok len, q₁)) (hlt : token.toNat < QUEUE_SIZE)
    (hadd : q₁.add [eventDescriptor hal input.eventBuf token.toNat] = some (.ok token, q₂))
    (o : IoLog.Oracle Access UInt32 VirtIoError) (h : List Access) :
    ∃ r log, (VirtIOInput.popPendingEvent hal mem input).run o h =
        (.ok (r, { input with eventQueue := q₂ }), log) ∧
      (r = .ok (some (mem (slotAddr hal input.eventBuf token.toNat))) ∨ ∃ e, r = .error e) := by
  unfold VirtIOInput.popPendingEvent
  simp only [hpeek, hpop, not_le.mpr hlt, if_false, hadd, ne_eq, not_true_eq_false]
  split
  · simp only [IoLog.Io.run_question, MmioTransport.notify, Mmio.write32, IoLog.Io.bind_eq,
      IoLog.Io.run_bind, IoLog.Io.run_access]
    cases o h (.write32 VirtIOHeader.queueNotify QUEUE_EVENT.toUInt32) with
    | error e => exact ⟨_, _, rfl, .inr ⟨e, rfl⟩⟩
    | ok v => exact ⟨_, _, rfl, .inl rfl⟩
  · exact ⟨_, _, rfl, .inl rfl⟩

/-- `pop_pending_event` with a completion waiting: it returns the event in the slot of the
completion at `last_seen_used`, or the error of the notification, and in both cases it has
taken the completion and posted the slot again; it never panics. -/
theorem popPendingEvent_front {s : InputSystem} {token : UInt16} (hs : Posted hal s)
    (hpeek : s.input.eventQueue.peekUsed = some token)
    (o : IoLog.Oracle Access UInt32 VirtIoError) (h : List Access) :
    ∃ r log, (VirtIOInput.popPendingEvent hal s.mem s.input).run o h =
        (.ok (r, { s.input with eventQueue := repost s.input.eventQueue token }), log) ∧
      (r = .ok (some (s.mem (slotAddr hal s.input.eventBuf token.toNat))) ∨
        ∃ e, r = .error e) := by
  obtain ⟨hne, htokNat, hlt⟩ := peek_token hs hpeek
  set q := s.input.eventQueue with hq
  have hfree : q.availDescIndex = [] := hs.free
  have hpoped : q.popedUsed = ∅ := hs.poped
  have hmatch : q.usedMatches token q.lastSeenUsed = true := by
    have hid32 : token.toUInt32 = (q.usedRing.ring (q.lastSeenUsed.toNat % QUEUE_SIZE)).id :=
      UInt32.toNat_inj.mp (by simp [htokNat])
    simp [VirtIoQueue.usedMatches, hid32]
  have hslot : q.descriptorTable token.toNat = eventDescriptor hal s.input.eventBuf token.toNat :=
    hs.table _ hlt
  have hlast : (q.descriptorTable token.toNat).hasNext = false := by
    rw [hslot, VirtIOInput.eventDescriptor, Descriptor.new_hasNext]
    decide
  have hfree₁ : ({ q with
      availDescIndex := q.availDescIndex ++ [token]
      popedUsed := ∅
      lastSeenUsed := q.lastSeenUsed + 1
      availRing := { q.availRing with usedEvent := q.lastSeenUsed + 1 } } :
        VirtIoQueue QUEUE_SIZE).availDescIndex = [token] := by
    simp [hfree]
  obtain ⟨r, log, hrun, hr⟩ := popPendingEvent_of hpeek
    (VirtIoQueue.popUsed_front hne hmatch hpoped hlt hlast) hlt
    (VirtIoQueue.add_single (d := eventDescriptor hal s.input.eventBuf token.toNat) hfree₁) o h
  refine ⟨r, log, ?_, hr⟩
  rw [hrun]
  have hmod : token.toNat % QUEUE_SIZE = token.toNat := Nat.mod_eq_of_lt hlt
  simp only [← hq, hmod, ← hslot, Function.update_eq_self, ← hfree, ← hpoped]
  rfl

theorem popPendingEvent_empty {mem : UInt64 → InputEvent} {input : VirtIOInput}
    (hempty : input.eventQueue.peekUsed = none) (o : IoLog.Oracle Access UInt32 VirtIoError)
    (h : List Access) :
    (VirtIOInput.popPendingEvent hal mem input).run o h = (.ok (.ok none, input), []) := by
  simp [VirtIOInput.popPendingEvent, hempty]

/-- A call of `pop_pending_event` returns the oldest event of the stream, or reports an empty
one, or fails after taking the oldest event; every slot stays posted. -/
theorem pop_simulates {s s' : InputSystem} {o : IoLog.Oracle Access UInt32 VirtIoError}
    {h : List Access} {obs : List (Channel.Obs InputEvent)} (hs : Posted hal s)
    (hstep : step hal s (.popPendingEvent o h) = some (s', obs)) :
    Posted hal s' ∧ s'.input.eventBuf = s.input.eventBuf ∧
      IoLog.Monitor.run Channel.step (pending hal s) obs = some (pending hal s') := by
  cases hpeek : s.input.eventQueue.peekUsed with
  | none =>
    have heq : s.input.eventQueue.lastSeenUsed = s.input.eventQueue.usedRing.idx := by
      by_contra hne
      simp [VirtIoQueue.peekUsed, hne] at hpeek
    have hpending : pending hal s = [] := by
      simp [pending, completed, VirtIoQueue.usedWindow, VirtIoQueue.skip_eq_zero_iff.mpr heq]
    simp only [step, popPendingEvent_empty hpeek, Option.some.injEq, Prod.mk.injEq] at hstep
    obtain ⟨rfl, rfl⟩ := hstep
    exact ⟨hs, rfl, by simp [popObs, hpending, Channel.step]⟩
  | some token =>
    obtain ⟨hne, htokNat, hlt⟩ := peek_token hs hpeek
    obtain ⟨r, log, hrun, hr⟩ := popPendingEvent_front hs hpeek o h
    simp only [step, hrun, Option.some.injEq, Prod.mk.injEq] at hstep
    obtain ⟨rfl, rfl⟩ := hstep
    have hcomp := completed_repost hne token
    have hunread := unread_repost (hs.unread_lt (by rw [hcomp]; exact List.cons_ne_nil _ _))
      token (d := s.device)
    refine ⟨⟨hs.free, hs.poped, hs.table, ?_⟩, rfl, ?_⟩
    · refine List.Perm.trans ?_ hs.perm
      set U := (unread s.input.eventQueue s.device).map UInt16.toNat
      set I := s.device.inFlight.map UInt16.toNat
      set C := (completed (repost s.input.eventQueue token)).map UInt32.toNat
      have hfirst : List.Perm (U ++ token.toNat :: (I ++ C)) (token.toNat :: (U ++ I ++ C)) := by
        simpa only [List.append_assoc] using List.perm_middle
      have hthird : List.Perm (U ++ (I ++ token.toNat :: C)) (token.toNat :: (U ++ I ++ C)) := by
        rw [← List.append_assoc]
        exact List.perm_middle
      simp only [stages, hunread, hcomp, List.map_append, List.map_cons, List.map_nil, ← htokNat,
        List.append_assoc, List.singleton_append]
      exact hfirst.trans hthird.symm
    · have hpending : pending hal s = s.mem (slotAddr hal s.input.eventBuf token.toNat) ::
          pending hal
            { s with input := { s.input with eventQueue := (repost s.input.eventQueue token) } } := by
        rw [pending, hcomp, List.map_cons, ← htokNat]
        rfl
      have hfront : frontEvent hal s = some (s.mem (slotAddr hal s.input.eventBuf token.toNat)) := by
        simp [frontEvent, hpeek]
      rw [hpending, hfront]
      rcases hr with rfl | ⟨e, rfl⟩ <;> simp [popObs, Channel.step]

theorem fetch_simulates {s s' : InputSystem} {obs : List (Channel.Obs InputEvent)}
    (hs : Posted hal s) (hstep : step hal s .fetch = some (s', obs)) :
    Posted hal s' ∧ s'.input.eventBuf = s.input.eventBuf ∧
      IoLog.Monitor.run Channel.step (pending hal s) obs = some (pending hal s') := by
  obtain ⟨d, hd, hres⟩ := Option.map_eq_some_iff.mp hstep
  cases hres
  exact ⟨posted_fetch hs hd, rfl, rfl⟩

/-- Every move from a state where every slot is posted keeps every slot posted and moves the
event stream as a first-in first-out channel does. -/
theorem step_simulates {s s' : InputSystem} {m : InputMove} {obs : List (Channel.Obs InputEvent)}
    (hslots : SlotsDistinct hal s.input.eventBuf) (hs : Posted hal s)
    (hstep : step hal s m = some (s', obs)) :
    Posted hal s' ∧ s'.input.eventBuf = s.input.eventBuf ∧
      IoLog.Monitor.run Channel.step (pending hal s) obs = some (pending hal s') := by
  cases m with
  | popPendingEvent o h => exact pop_simulates hs hstep
  | ackInterrupt =>
    cases hstep
    exact ⟨hs, rfl, rfl⟩
  | fetch => exact fetch_simulates hs hstep
  | complete head len event => exact complete_simulates hslots hs hstep

theorem pop_isSome {s : InputSystem} (hs : Posted hal s) (o : IoLog.Oracle Access UInt32 VirtIoError)
    (h : List Access) : (step hal s (.popPendingEvent o h)).isSome := by
  cases hpeek : s.input.eventQueue.peekUsed with
  | none => simp [step, popPendingEvent_empty hpeek]
  | some token =>
    obtain ⟨r, log, hrun, -⟩ := popPendingEvent_front hs hpeek o h
    simp [step, hrun]

theorem pending_initial {eventBuf : ℕ} {s : InputSystem} (h : Initial hal eventBuf s) :
    pending hal s = [] := by
  simp [pending, completed, h.1, VirtIoQueue.postedUpTo, VirtIoQueue.usedWindow,
    VirtIoQueue.skip, VirtIoQueue.init]

/-! ## Every run of the driver -/

/-- Against every register file, and every device that reads the posted slots in order and
completes each slot it has read once, in any order, after writing an event into its buffer:
`new` posts slot `i` under token `i` (its assertion holds) and returns that queue; along every
run from there, every slot stays posted, `pop_pending_event` never panics (its assertion holds),
and the calls take the events in the order the device wrote them, each once: the events written
are the events taken, returned or lost to a failed notification, followed by those waiting. -/
theorem input_event_stream (hal : Hal) (transport : MmioTransport) (eventBuf : ℕ)
    (hslots : SlotsDistinct hal eventBuf) :
    VirtIOInput.postEventBufs hal eventBuf 0 QUEUE_SIZE
        (VirtIoQueue.init QUEUE_SIZE QUEUE_EVENT) =
      some (.ok (VirtIoQueue.postedUpTo QUEUE_SIZE (eventDescriptor hal eventBuf) QUEUE_EVENT
        QUEUE_SIZE)) ∧
    IoLog.Returns (VirtIOInput.new hal transport eventBuf) (fun input ↦
      input.eventQueue =
          VirtIoQueue.postedUpTo QUEUE_SIZE (eventDescriptor hal eventBuf) QUEUE_EVENT QUEUE_SIZE ∧
        input.eventBuf = eventBuf) ∧
    ∀ s₀, Initial hal eventBuf s₀ → ∀ ms s obs, Trace.run (step hal) s₀ ms = some (s, obs) →
      s.input.eventQueue.availDescIndex = [] ∧
      (∀ t < QUEUE_SIZE, s.input.eventQueue.descriptorTable t = eventDescriptor hal eventBuf t) ∧
      (∀ o h, (step hal s (.popPendingEvent o h)).isSome) ∧
      IoLog.Monitor.run Channel.step [] obs = some (pending hal s) ∧
      Channel.writes obs = Channel.taken obs ++ pending hal s := by
  refine ⟨VirtIOInput.postEventBufs_init, VirtIOInput.new_returns hal transport eventBuf, ?_⟩
  intro s₀ hinit ms s obs hrun
  have hstep : ∀ s m s' es, Posted hal s ∧ s.input.eventBuf = eventBuf →
      step hal s m = some (s', es) →
      (Posted hal s' ∧ s'.input.eventBuf = eventBuf) ∧
        IoLog.Monitor.run Channel.step (pending hal s) es = some (pending hal s') := by
    rintro s m s' es ⟨hs, hbuf⟩ h
    obtain ⟨hs', hbuf', hmon⟩ := step_simulates (hbuf ▸ hslots) hs h
    exact ⟨⟨hs', hbuf'.trans hbuf⟩, hmon⟩
  obtain ⟨⟨hs, hbuf⟩, hmon⟩ :=
    Trace.simulates hstep ms s₀ s obs ⟨posted_initial hinit, hinit.2.1⟩ hrun
  rw [pending_initial hinit] at hmon
  refine ⟨hs.free, hbuf ▸ hs.table, pop_isSome hs, hmon, ?_⟩
  simpa using Channel.writes_eq hmon

theorem slotsDistinct_identityHal : SlotsDistinct identityHal 0x1000 := by
  intro i hi j hj h
  have h' := congrArg UInt64.toNat h
  simp only [slotAddr, VirtIOInput.eventDescriptor, Descriptor.new, identityHal, id,
    VirtIOInput.inputEventSize, Nat.toUInt64, UInt64.toNat_ofNat'] at h'
  simp only [QUEUE_SIZE] at hi hj
  omega

/-- The system right after `new` on that HAL, with `event_buf` at `0x1000` and the memory
zeroed. -/
def start : InputSystem :=
  { input :=
      { transport := ⟨.modern⟩
        eventQueue := VirtIoQueue.postedUpTo QUEUE_SIZE (eventDescriptor identityHal 0x1000)
          QUEUE_EVENT QUEUE_SIZE
        statusQueue := VirtIoQueue.init QUEUE_SIZE VirtIOInput.QUEUE_STATUS
        eventBuf := 0x1000 }
    device := ⟨0, []⟩
    mem := fun _ ↦ default }

/-- A key press and its release. -/
def keyPress : InputEvent := ⟨1, 30, 1⟩

def keyRelease : InputEvent := ⟨1, 30, 0⟩

/-- The device completes slot `0` with a key press and slot `1` with its release; the driver's
first call meets a register file whose accesses all fail, the next two one whose accesses all
succeed. -/
def lostEventRun : List InputMove :=
  [.fetch, .complete 0 8 keyPress, .fetch, .complete 1 8 keyRelease,
    .popPendingEvent (fun _ _ ↦ .error .ioError) [], .popPendingEvent (fun _ _ ↦ .ok 0) [],
    .popPendingEvent (fun _ _ ↦ .ok 0) []]

/-- Along `lostEventRun` the accounting still holds, the lost press counted among the events
taken, and a further call cannot panic. -/
theorem input_event_stream_lost :
    SlotsDistinct identityHal 0x1000 ∧ Initial identityHal 0x1000 start ∧
      ∃ s obs, Trace.run (step identityHal) start lostEventRun = some (s, obs) ∧
        Channel.writes obs = Channel.taken obs ++ pending identityHal s ∧
        ∀ o h, (step identityHal s (.popPendingEvent o h)).isSome := by
  have hinit : Initial identityHal 0x1000 start := ⟨rfl, rfl, rfl⟩
  have hsome : (Trace.run (step identityHal) start lostEventRun).isSome := by decide +kernel
  obtain ⟨⟨s, obs⟩, hrun⟩ := Option.isSome_iff_exists.mp hsome
  obtain ⟨-, -, hpop, -, hwrites⟩ :=
    (input_event_stream identityHal ⟨.modern⟩ 0x1000 slotsDistinct_identityHal).2.2 start hinit
      lostEventRun s obs hrun
  exact ⟨slotsDistinct_identityHal, hinit, s, obs, hrun, hwrites, hpop⟩

/-- The first call took the press and returned the notification's error; the next returns the
release and the last finds nothing: the press is never returned. -/
theorem input_event_lost :
    (Trace.run (step identityHal) start lostEventRun).map Prod.snd =
      some [.write keyPress, .write keyRelease, .lost keyPress, .read keyRelease, .empty] := by
  decide +kernel

end InputSystem

end SafeVirtio