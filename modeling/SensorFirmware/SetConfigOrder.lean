import SensorFirmware.GuardedRun
import SensorFirmware.SetConfig

/-!
# The order of SET_CONFIG packets

Packets of one session arrive in any order and any number of times.  One number
is remembered for all settings, so the packet with the highest number for a
setting is dropped when a later packet for another setting was faster.
-/

namespace SensorFirmware

open GuardedRun

variable {cfg : HistoryConfig} {σ : Type}

structure SetConfigPacket where
  seqNum : ℕ
  configId : Byte
  value : Byte
  reserved : Byte × Byte
  deriving DecidableEq

namespace SetConfigPacket

def payload (packet : SetConfigPacket) : List Byte :=
  [packet.configId, packet.value, packet.reserved.1, packet.reserved.2]

def Valid (packet : SetConfigPacket) : Prop :=
  validSetting packet.configId packet.value = true

instance (packet : SetConfigPacket) : Decidable packet.Valid :=
  inferInstanceAs (Decidable (_ = true))

end SetConfigPacket

def ProtocolDevice.setConfig (device : ProtocolDevice cfg σ)
    (delivery : SetConfigPacket × MessageEnv) : ProtocolDevice cfg σ :=
  (device.react.handleSetConfig delivery.2 delivery.1.seqNum
    delivery.1.payload).toProtocolDevice

/-- No packet for the same setting has a later number. -/
def Highest (packets : List SetConfigPacket) (packet : SetConfigPacket) :
    Prop :=
  ∀ other ∈ packets, other.configId = packet.configId →
    seqNotAfter packet.seqNum other.seqNum = true

/-- Each setting has the value of its packet with the highest number. -/
def LastWriterWins (packets : List SetConfigPacket) (config : UserConfig) :
    Prop :=
  ∀ packet ∈ packets, Highest packets packet →
    config.setting packet.configId = some packet.value.toNat

/-- The packets that are later than every packet of this list before them, and
than the number that was left from before. -/
def inOrder (last : Option ℕ) : List SetConfigPacket → List SetConfigPacket
  | [] => []
  | packet :: rest =>
      if seqStale last packet.seqNum then inOrder last rest
      else packet :: inOrder (some packet.seqNum) rest

/-- What the packets in order write to a setting. -/
def written (packets : List SetConfigPacket) (configId : Byte)
    (initial : Option ℕ) : Option ℕ :=
  packets.foldl (fun value packet =>
    if packet.configId = configId then some packet.value.toNat
    else value) initial

/-- The packet with the highest number for each setting is in order. -/
def HighestInOrder (last : Option ℕ) (packets : List SetConfigPacket) : Prop :=
  ∀ packet ∈ packets, Highest packets packet → packet ∈ inOrder last packets

/-- No packet carries the value that its setting has, or that another packet
carries to the same setting. -/
def ValuesDiffer (packets : List SetConfigPacket) (config : UserConfig) : Prop :=
  ∀ packet ∈ packets,
    config.setting packet.configId ≠ some packet.value.toNat ∧
      ∀ other ∈ packets, other.configId = packet.configId →
        other.value = packet.value → other = packet

/-! ## A run -/

theorem setting_setConfig (device : ProtocolDevice cfg σ)
    {packet : SetConfigPacket} {env : MessageEnv} (hvalid : packet.Valid)
    (hlocked : env.configLocked = true) :
    (seqStale device.handler.configNumber packet.seqNum = true ∧
      (device.setConfig (packet, env)).handler.configNumber =
        device.handler.configNumber ∧
      (device.setConfig (packet, env)).config = device.config) ∨
    (seqStale device.handler.configNumber packet.seqNum = false ∧
      (device.setConfig (packet, env)).handler.configNumber =
        some packet.seqNum ∧
      ∀ id, (device.setConfig (packet, env)).config.config.setting id =
        if packet.configId = id then some packet.value.toNat
        else device.config.config.setting id) := by
  cases hstale : seqStale device.handler.configNumber packet.seqNum with
  | true =>
      left
      have hdropped : device.react.handleSetConfig env packet.seqNum
          packet.payload = device.react.sendAck env packet.seqNum :=
        Reaction.handleSetConfig_stale hstale
      unfold ProtocolDevice.setConfig
      rw [hdropped]
      refine ⟨rfl, ?_, rfl⟩
      exact Reaction.configNumber_sendMessage env device.react _ _
  | false =>
      right
      have htaken : Reaction.TakesSetting env packet.seqNum packet.configId
          packet.value device.react
          (device.react.handleSetConfig env packet.seqNum packet.payload) :=
        Reaction.handleSetConfig_taken hstale rfl hvalid
      refine ⟨rfl, htaken.number, fun id => ?_⟩
      have hsetting := htaken.setting id
      simp only [hlocked, and_true] at hsetting
      unfold ProtocolDevice.setConfig
      rw [hsetting]
      by_cases hid : packet.configId = id
      · rw [if_pos hid, if_pos hid.symm]
      · rw [if_neg hid, if_neg (Ne.symm hid)]
        rfl

theorem setting_run {device : ProtocolDevice cfg σ}
    {deliveries : List (SetConfigPacket × MessageEnv)}
    (hvalid : ∀ delivery ∈ deliveries, delivery.1.Valid)
    (hlocked : ∀ delivery ∈ deliveries, delivery.2.configLocked = true)
    (id : Byte) :
    (run ProtocolDevice.setConfig device deliveries).config.config.setting
        id =
      written (inOrder device.handler.configNumber (deliveries.map Prod.fst))
        id (device.config.config.setting id) := by
  induction deliveries generalizing device with
  | nil => rfl
  | cons delivery rest ih =>
      obtain ⟨packet, env⟩ := delivery
      have hrest : (run ProtocolDevice.setConfig
          (device.setConfig (packet, env)) rest).config.config.setting id =
          written (inOrder
              (device.setConfig (packet, env)).handler.configNumber
              (rest.map Prod.fst)) id
            ((device.setConfig (packet, env)).config.config.setting id) :=
        ih (fun other hother => hvalid other (.tail _ hother))
          fun other hother => hlocked other (.tail _ hother)
      have hhere : packet.Valid := hvalid (packet, env) (.head rest)
      have hfree : env.configLocked = true :=
        hlocked (packet, env) (.head rest)
      rw [run_cons, hrest, List.map_cons, inOrder]
      rcases setting_setConfig device hhere hfree with
        ⟨hstale, hnumber, hconfig⟩ | ⟨hfresh, hnumber, hsetting⟩
      · rw [hnumber, hconfig, if_pos hstale]
      · rw [hnumber, hsetting id, hfresh]
        rfl

/-! ## Packets in order -/

theorem seqNotAfter_window {base last seqNum : ℕ}
    (hlast : sub16 last base < 2 ^ 15) (hseq : sub16 seqNum base < 2 ^ 15) :
    seqNotAfter last seqNum = false ↔ sub16 last base < sub16 seqNum base := by
  have hafter : seqNotAfter last seqNum = false ↔
      0 < sub16 seqNum last ∧ sub16 seqNum last < 2 ^ 15 := by
    unfold seqNotAfter
    rw [Bool.or_eq_false_iff, beq_eq_false_iff_ne, decide_eq_false_iff_not,
      not_le, Nat.pos_iff_ne_zero]
  rw [hafter]
  simp only [sub16, u16] at hlast hseq ⊢
  omega

theorem mem_of_mem_inOrder {last : Option ℕ}
    {packets : List SetConfigPacket} {packet : SetConfigPacket}
    (hmem : packet ∈ inOrder last packets) : packet ∈ packets := by
  induction packets generalizing last with
  | nil => cases hmem
  | cons first rest ih =>
      unfold inOrder at hmem
      split at hmem
      · exact .tail _ (ih hmem)
      · rcases List.mem_cons.mp hmem with rfl | hrest
        · exact .head rest
        · exact .tail _ (ih hrest)

theorem inOrder_above {base last : ℕ} {packets : List SetConfigPacket}
    (hlast : sub16 last base < 2 ^ 15)
    (hwindow : ∀ packet ∈ packets, sub16 packet.seqNum base < 2 ^ 15) :
    ∀ packet ∈ inOrder (some last) packets,
      sub16 last base < sub16 packet.seqNum base := by
  induction packets generalizing last with
  | nil => nofun
  | cons first rest ih =>
      have hfirst := hwindow first (.head rest)
      have hrest : ∀ packet ∈ rest, sub16 packet.seqNum base < 2 ^ 15 :=
        fun packet hpacket => hwindow packet (.tail _ hpacket)
      intro packet hpacket
      unfold inOrder at hpacket
      split at hpacket
      · exact ih hlast hrest packet hpacket
      next hfresh =>
        have habove : sub16 last base < sub16 first.seqNum base := by
          rw [← seqNotAfter_window hlast hfirst]
          simpa [seqStale] using hfresh
        rcases List.mem_cons.mp hpacket with rfl | htail
        · exact habove
        · exact habove.trans (ih hfirst hrest packet htail)

theorem inOrder_increasing {base : ℕ} {last : Option ℕ}
    {packets : List SetConfigPacket}
    (hwindow : ∀ packet ∈ packets, sub16 packet.seqNum base < 2 ^ 15) :
    (inOrder last packets).Pairwise fun first second =>
      sub16 first.seqNum base < sub16 second.seqNum base := by
  induction packets generalizing last with
  | nil => exact .nil
  | cons first rest ih =>
      have hrest : ∀ packet ∈ rest, sub16 packet.seqNum base < 2 ^ 15 :=
        fun packet hpacket => hwindow packet (.tail _ hpacket)
      unfold inOrder
      split
      · exact ih hrest
      · exact .cons (inOrder_above (hwindow first (.head rest)) hrest)
          (ih hrest)

theorem mem_inOrder_of_earlier {base : ℕ} {last : Option ℕ}
    {before after : List SetConfigPacket} {packet : SetConfigPacket}
    (hpacket : sub16 packet.seqNum base < 2 ^ 15)
    (hlast : ∀ number, last = some number →
      sub16 number base < sub16 packet.seqNum base)
    (hbefore : ∀ other ∈ before,
      sub16 other.seqNum base < sub16 packet.seqNum base) :
    packet ∈ inOrder last (before ++ packet :: after) := by
  induction before generalizing last with
  | nil =>
      have hfresh : seqStale last packet.seqNum = false := by
        cases last with
        | none => rfl
        | some number =>
            have hbelow := hlast number rfl
            have hafter := (seqNotAfter_window (hbelow.trans hpacket)
              hpacket).mpr hbelow
            simpa [seqStale] using hafter
      rw [List.nil_append, inOrder, hfresh]
      exact .head _
  | cons other rest ih =>
      have hrest : ∀ packet' ∈ rest,
          sub16 packet'.seqNum base < sub16 packet.seqNum base :=
        fun packet' hpacket' => hbefore packet' (.tail _ hpacket')
      rw [List.cons_append, inOrder]
      split
      · exact ih hlast hrest
      · refine .tail _ (ih ?_ hrest)
        intro number hnumber
        rw [← Option.some.inj hnumber]
        exact hbefore other (.head rest)

theorem written_other {packets : List SetConfigPacket} {configId : Byte}
    (hother : ∀ packet ∈ packets, packet.configId ≠ configId)
    (initial : Option ℕ) : written packets configId initial = initial := by
  induction packets generalizing initial with
  | nil => rfl
  | cons packet rest ih =>
      have hrest := ih (fun other hmem => hother other (.tail _ hmem)) initial
      simpa [written, hother packet (.head rest)] using hrest

/-- A packet in order that no packet for its setting follows in number has the
last word. -/
theorem written_highest {base : ℕ} {last : Option ℕ}
    {packets : List SetConfigPacket} {packet : SetConfigPacket}
    (hwindow : ∀ packet ∈ packets, sub16 packet.seqNum base < 2 ^ 15)
    (hhighest : Highest packets packet)
    (hmem : packet ∈ inOrder last packets) (initial : Option ℕ) :
    written (inOrder last packets) packet.configId initial =
      some packet.value.toNat := by
  have hincreasing : (inOrder last packets).Pairwise fun first second =>
      sub16 first.seqNum base < sub16 second.seqNum base :=
    inOrder_increasing hwindow
  have hsub : ∀ other ∈ inOrder last packets, other ∈ packets :=
    fun other hother => mem_of_mem_inOrder hother
  obtain ⟨before, after, hsplit⟩ := List.append_of_mem hmem
  rw [hsplit] at hincreasing hsub ⊢
  obtain ⟨-, hlater, -⟩ := List.pairwise_append.mp hincreasing
  obtain ⟨habove, -⟩ := List.pairwise_cons.mp hlater
  have hafter : ∀ other ∈ after, other.configId ≠ packet.configId := by
    intro other hother hsame
    have hin : other ∈ packets := hsub other (by simp [hother])
    have hnot := hhighest other hin hsame
    have hnew := (seqNotAfter_window (hwindow packet (hsub packet (by simp)))
      (hwindow other hin)).mpr (habove other hother)
    rw [hnot] at hnew
    cases hnew
  have hlast := written_other hafter (some packet.value.toNat)
  simp only [written, List.foldl_append, List.foldl_cons, if_pos] at hlast ⊢
  exact hlast

theorem written_cases (packets : List SetConfigPacket) (configId : Byte)
    (initial : Option ℕ) :
    written packets configId initial = initial ∨
      ∃ packet ∈ packets, packet.configId = configId ∧
        written packets configId initial = some packet.value.toNat := by
  induction packets generalizing initial with
  | nil => exact .inl rfl
  | cons first rest ih =>
      have hstep : written (first :: rest) configId initial =
          written rest configId (if first.configId = configId then
            some first.value.toNat else initial) := rfl
      rw [hstep]
      rcases ih (if first.configId = configId then some first.value.toNat
        else initial) with hkept | ⟨packet, hpacket, hid, hvalue⟩
      · rw [hkept]
        split
        · next hfirst => exact .inr ⟨first, .head rest, hfirst, rfl⟩
        · exact .inl rfl
      · exact .inr ⟨packet, .tail first hpacket, hid, hvalue⟩

/-- Where the values differ, a value was written by the packet that carries
it. -/
theorem ValuesDiffer.mem_inOrder {packets : List SetConfigPacket}
    {config : UserConfig} (hdiffer : ValuesDiffer packets config)
    {last : Option ℕ} {packet : SetConfigPacket} (hpacket : packet ∈ packets)
    (hvalue : written (inOrder last packets) packet.configId
      (config.setting packet.configId) = some packet.value.toNat) :
    packet ∈ inOrder last packets := by
  obtain ⟨hnew, hsame⟩ := hdiffer packet hpacket
  rcases written_cases (inOrder last packets) packet.configId
    (config.setting packet.configId) with hkept | ⟨other, hother, hid, hwritten⟩
  · exact absurd (hkept.symm.trans hvalue) hnew
  · have hnat : other.value.toNat = packet.value.toNat :=
      Option.some.inj (hwritten.symm.trans hvalue)
    have heq : other = packet :=
      hsame other (mem_of_mem_inOrder hother) hid (BitVec.eq_of_toNat_eq hnat)
    rwa [← heq]

/-! ## The last writer -/

/-- A setting whose highest packet nothing later outran has its value. -/
theorem not_overtaken_wins {device : ProtocolDevice cfg σ}
    {deliveries : List (SetConfigPacket × MessageEnv)} {base : ℕ}
    (hvalid : ∀ delivery ∈ deliveries, delivery.1.Valid)
    (hwindow : ∀ delivery ∈ deliveries,
      sub16 delivery.1.seqNum base < 2 ^ 15)
    (hlocked : ∀ delivery ∈ deliveries, delivery.2.configLocked = true)
    (hnew : device.handler.configNumber = none)
    {before after : List SetConfigPacket} {packet : SetConfigPacket}
    (hsplit : deliveries.map Prod.fst = before ++ packet :: after)
    (hearlier : ∀ other ∈ before,
      sub16 other.seqNum base < sub16 packet.seqNum base)
    (hhighest : Highest (deliveries.map Prod.fst) packet) :
    (run ProtocolDevice.setConfig device deliveries).config.config.setting
      packet.configId = some packet.value.toNat := by
  have hpackets : ∀ packet ∈ deliveries.map Prod.fst,
      sub16 packet.seqNum base < 2 ^ 15 := by
    intro packet hpacket
    obtain ⟨delivery, hdelivery, rfl⟩ := List.mem_map.mp hpacket
    exact hwindow delivery hdelivery
  have hhere : sub16 packet.seqNum base < 2 ^ 15 :=
    hpackets packet (by simp [hsplit])
  have hmem : packet ∈ inOrder device.handler.configNumber
      (deliveries.map Prod.fst) := by
    rw [hnew, hsplit]
    exact mem_inOrder_of_earlier hhere nofun hearlier
  rw [setting_run hvalid hlocked]
  exact written_highest hpackets hhighest hmem _

/-- In any delivery of valid packets within half of the number space, each
setting ends with the value of its highest packet if that packet comes in order;
and where the values differ, only then. -/
theorem last_writer_wins_iff (device : ProtocolDevice cfg σ)
    (deliveries : List (SetConfigPacket × MessageEnv)) (base : ℕ)
    (hvalid : ∀ delivery ∈ deliveries, delivery.1.Valid)
    (hwindow : ∀ delivery ∈ deliveries,
      sub16 delivery.1.seqNum base < 2 ^ 15)
    (hlocked : ∀ delivery ∈ deliveries, delivery.2.configLocked = true) :
    let packets := deliveries.map Prod.fst
    let config := (run ProtocolDevice.setConfig device
      deliveries).config.config
    (HighestInOrder device.handler.configNumber packets →
        LastWriterWins packets config) ∧
      (ValuesDiffer packets device.config.config →
        (LastWriterWins packets config ↔
          HighestInOrder device.handler.configNumber packets)) := by
  intro packets config
  have hpackets : ∀ packet ∈ packets, sub16 packet.seqNum base < 2 ^ 15 := by
    intro packet hpacket
    obtain ⟨delivery, hdelivery, rfl⟩ := List.mem_map.mp hpacket
    exact hwindow delivery hdelivery
  have henough : HighestInOrder device.handler.configNumber packets →
      LastWriterWins packets config := by
    intro horder packet hpacket hhighest
    rw [setting_run hvalid hlocked]
    exact written_highest hpackets hhighest (horder packet hpacket hhighest) _
  refine ⟨henough, fun hdiffer => ⟨fun hwins packet hpacket hhighest => ?_,
    henough⟩⟩
  have hvalue := hwins packet hpacket hhighest
  rw [setting_run hvalid hlocked] at hvalue
  exact hdiffer.mem_inOrder hpacket hvalue

def sensitivityPacket (seqNum : ℕ) (value : Byte) : SetConfigPacket :=
  ⟨seqNum, ConfigId.sensitivity, value, (0, 0)⟩

def brightnessPacket (seqNum : ℕ) (value : Byte) : SetConfigPacket :=
  ⟨seqNum, ConfigId.ledBrightness, value, (0, 0)⟩

def deliver (packets : List SetConfigPacket) :
    List (SetConfigPacket × MessageEnv) :=
  packets.map fun packet => (packet, .good)

/-- Three packets around the end of the number space, one of them twice. -/
def packetsInOrder : List SetConfigPacket :=
  [sensitivityPacket 65534 70, brightnessPacket 65535 10,
    sensitivityPacket 65534 70, sensitivityPacket 0 80]

instance (packets : List SetConfigPacket) (packet : SetConfigPacket) :
    Decidable (Highest packets packet) :=
  inferInstanceAs (Decidable (∀ other ∈ packets, _ → _))

instance (last : Option ℕ) (packets : List SetConfigPacket) :
    Decidable (HighestInOrder last packets) :=
  inferInstanceAs (Decidable (∀ packet ∈ packets, _ → _))

instance (packets : List SetConfigPacket) (config : UserConfig) :
    Decidable (ValuesDiffer packets config) :=
  inferInstanceAs (Decidable (∀ packet ∈ packets, _ ∧ ∀ other ∈ packets, _))

theorem packets_in_order_win :
    LastWriterWins ((deliver packetsInOrder).map Prod.fst)
      (run ProtocolDevice.setConfig
        (ProtocolDevice.setUp .fourSlots ())
        (deliver packetsInOrder)).config.config ∧
    HighestInOrder none ((deliver packetsInOrder).map Prod.fst) := by
  have hpackets : ∀ packet ∈ packetsInOrder,
      packet.Valid ∧ sub16 packet.seqNum 65534 < 2 ^ 15 := by
    decide
  have hvalid : ∀ delivery ∈ deliver packetsInOrder, delivery.1.Valid := by
    intro delivery hdelivery
    obtain ⟨packet, hpacket, rfl⟩ := List.mem_map.mp hdelivery
    exact (hpackets packet hpacket).1
  have hwindow : ∀ delivery ∈ deliver packetsInOrder,
      sub16 delivery.1.seqNum 65534 < 2 ^ 15 := by
    intro delivery hdelivery
    obtain ⟨packet, hpacket, rfl⟩ := List.mem_map.mp hdelivery
    exact (hpackets packet hpacket).2
  have hlocked : ∀ delivery ∈ deliver packetsInOrder,
      delivery.2.configLocked = true := by
    intro delivery hdelivery
    obtain ⟨packet, hpacket, rfl⟩ := List.mem_map.mp hdelivery
    rfl
  have hdiffer : ValuesDiffer ((deliver packetsInOrder).map Prod.fst)
      (ProtocolDevice.setUp .fourSlots ()).config.config := by decide
  obtain ⟨henough, hiff⟩ := last_writer_wins_iff
    (ProtocolDevice.setUp .fourSlots ()) (deliver packetsInOrder) 65534 hvalid
    hwindow hlocked
  have hwins := henough (by decide)
  exact ⟨hwins, (hiff hdiffer).mp hwins⟩

/-- The packet for the brightness was faster. -/
def overtakenPackets : List SetConfigPacket :=
  [brightnessPacket 6 10, sensitivityPacket 5 70]

/-- The only packet for the sensitivity has no effect. -/
theorem overtaken_packet_lost :
    (run ProtocolDevice.setConfig (ProtocolDevice.setUp .fourSlots ())
        (deliver overtakenPackets)).config.config.sensitivity = 50 ∧
      ¬LastWriterWins overtakenPackets
        (run ProtocolDevice.setConfig (ProtocolDevice.setUp .fourSlots ())
          (deliver overtakenPackets)).config.config := by
  have hsensitivity : (run ProtocolDevice.setConfig
      (ProtocolDevice.setUp .fourSlots ())
      (deliver overtakenPackets)).config.config.sensitivity = 50 := by
    decide +kernel
  refine ⟨hsensitivity, fun hwins => ?_⟩
  have hvalue := hwins (sensitivityPacket 5 70) (by decide) (by decide)
  have hsetting := Option.some.inj hvalue
  rw [hsensitivity] at hsetting
  exact absurd hsetting (by decide)

end SensorFirmware
