import SteeringDisplay.PanelMachine

set_option autoImplicit false

/-!
# io.c: what goes over the SPI bus

Each routine of io.c is one transaction. The panel takes the bytes of a transaction
one by one, a control byte first, and answers each of them.
-/
namespace SteeringDisplay.SpiTransactions
open ProgramTree FirmwareInterface PanelDriver PanelMachine

/-! ## spi_master.c -/

/-- The members of `spi_transaction_t` that io.c sets; `memset` has cleared the others. -/
structure SpiTransaction where
  flags : UInt32
  cmd : UInt16
  length : UInt32
  txData : List UInt8
  txBuffer : Option (List UInt8)

def spiTransUseRxdata : UInt32 := (1 : UInt32) <<< 2
def spiTransUseTxdata : UInt32 := (1 : UInt32) <<< 3

def SpiTransaction.cleared : SpiTransaction := ⟨0, 0, 0, [0, 0, 0, 0], none⟩

/-- `spicommon_dma_desc_alloc`: the limit of a bus, in whole descriptors. -/
def actualMaxSize (cfgMaxSize : ℕ) : ℕ := max 1 ((cfgMaxSize + 4092 - 1) / 4092) * 4092

/-- `max_transfer_sz` of the bus that `RA8875_init` asks for. -/
def maxTransferSize : ℕ := actualMaxSize 8000

def dmaMaxBitLen : ℕ := 1 <<< 18

/-- `check_trans_valid`, for a full-duplex device without dummy bits on a bus with DMA. -/
def checkTransValid (t : SpiTransaction) : Bool :=
  let txEnabled := t.flags &&& spiTransUseTxdata ≠ 0 ∨ t.txBuffer.isSome
  (t.flags &&& spiTransUseTxdata = 0 ∨ t.length.toNat ≤ 32) ∧
    t.length.toNat ≤ maxTransferSize * 8 ∧ (t.length ≠ 0 ∨ ¬ txEnabled) ∧
    t.length.toNat ≤ dmaMaxBitLen

def SpiTransaction.mosi (t : SpiTransaction) : List UInt8 :=
  t.cmd.toUInt8 ::
    (if t.flags &&& spiTransUseTxdata ≠ 0 then t.txData else t.txBuffer.getD []).take
      (t.length.toNat / 8)

/-! ## io.c -/

def cmdDataWrite : UInt8 := 0x00
def cmdDataRead : UInt8 := 0x40
def cmdCmdWrite : UInt8 := 0x80

/-- A routine of io.c: its transaction, and what it returns of `rx_data`. -/
structure IoCall (α : Type) where
  transaction : SpiTransaction
  result : List UInt8 → α

def ioWriteCommand (reg : UInt8) : IoCall Unit where
  transaction := { SpiTransaction.cleared with
    length := 8, cmd := cmdCmdWrite.toUInt16, txData := [reg, 0, 0, 0], flags := spiTransUseTxdata }
  result _ := ()

def ioWriteData (value : UInt8) : IoCall Unit where
  transaction := { SpiTransaction.cleared with
    length := 8, cmd := cmdDataWrite.toUInt16, txData := [value, 0, 0, 0],
    flags := spiTransUseTxdata }
  result _ := ()

/-- `RA8875_write_data_block`, for a pointer to at least `nbytes` bytes. -/
def ioWriteDataBlock (buffer : List UInt8) (nbytes : ℤ) : IoCall Unit where
  transaction := { SpiTransaction.cleared with
    length := UInt32.ofInt (nbytes * 8), cmd := cmdDataWrite.toUInt16, txBuffer := some buffer }
  result _ := ()

def ioReadData : IoCall UInt8 where
  transaction := { SpiTransaction.cleared with
    length := 8, cmd := cmdDataRead.toUInt16, txData := [0, 0, 0, 0],
    flags := spiTransUseTxdata ||| spiTransUseRxdata }
  result rx := rx.getD 0 0

def ioWriteRegister (reg value : UInt8) : IoCall Unit where
  transaction := { SpiTransaction.cleared with
    length := 24, cmd := cmdCmdWrite.toUInt16, txData := [reg, cmdDataWrite, value, 0],
    flags := spiTransUseTxdata }
  result _ := ()

def ioReadRegister (reg : UInt8) : IoCall UInt8 where
  transaction := { SpiTransaction.cleared with
    length := 24, cmd := cmdCmdWrite.toUInt16, txData := [reg, cmdDataRead, 0, 0],
    flags := spiTransUseTxdata ||| spiTransUseRxdata }
  result rx := rx.getD 2 0

inductive Phase where
  | control
  | command
  | write
  | read
  | status
  deriving DecidableEq

section Device
variable (engine : TextEngine) (undefinedText : Format → CFloat → List UInt8)

/-- One byte in each direction. After a command comes another control byte; data go on
    until the end of the transaction. -/
def byteStep (byte : UInt8) : Phase → PanelState → UInt8 × Phase × PanelState
  | .control, s =>
    if byte >>> 6 = 0 then (0, .write, s)
    else if byte >>> 6 = 1 then (0, .read, s)
    else if byte >>> 6 = 2 then (0, .command, s)
    else (0, .status, s)
  | .command, s => (0, .control, { s with latch := byte })
  | .write, s => (0, .write, s.data engine byte)
  | .read, s => (PanelState.answer undefinedText (.readRegister s.latch) s, .read, s)
  | .status, s => (0, .status, s)

def exchange : List UInt8 → Phase → PanelState → List UInt8 × PanelState
  | [], _, s => ([], s)
  | byte :: bytes, phase, s =>
    let next := byteStep engine undefinedText byte phase s
    let rest := exchange bytes next.2.1 next.2.2
    (next.1 :: rest.1, rest.2)

structure Bus where
  panel : PanelState
  sent : List (List UInt8)
  failed : Bool

/-- `spi_device_polling_transmit` and the assertion after it. That `setup_priv_desc` may find
    no memory for a DMA buffer (`ESP_ERR_NO_MEM`) is not modelled. -/
def IoCall.exec {α : Type} (c : IoCall α) (b : Bus) : α × Bus :=
  if checkTransValid c.transaction then
    let reply := exchange engine undefinedText c.transaction.mosi .control b.panel
    (c.result reply.1.tail, ⟨reply.2, b.sent ++ [c.transaction.mosi], b.failed⟩)
  else (c.result [], { b with failed := true })

def bus : Handler firmware Bus
  | .writeCommand reg, b => (ioWriteCommand reg).exec engine undefinedText b
  | .writeData value, b => (ioWriteData value).exec engine undefinedText b
  | .writeRegister reg value, b => (ioWriteRegister reg value).exec engine undefinedText b
  | .readRegister reg, b => (ioReadRegister reg).exec engine undefinedText b
  | o, b =>
    let next := panel engine undefinedText o b.panel
    (next.1, { b with panel := next.2 })

/-- The driver without the combined transactions: a register access is a command, and
    then its data. -/
def plainBus : Handler firmware Bus
  | .writeRegister reg value, b =>
    (ioWriteData value).exec engine undefinedText
      ((ioWriteCommand reg).exec engine undefinedText b).2
  | .readRegister reg, b =>
    ioReadData.exec engine undefinedText ((ioWriteCommand reg).exec engine undefinedText b).2
  | o, b => bus engine undefinedText o b

end Device

def framesOf : Op → List (List UInt8)
  | .writeCommand reg => [[cmdCmdWrite, reg]]
  | .writeData value => [[cmdDataWrite, value]]
  | .writeRegister reg value => [[cmdCmdWrite, reg, cmdDataWrite, value]]
  | .readRegister reg => [[cmdCmdWrite, reg, cmdDataRead, 0]]
  | _ => []

def decodeFrame : List UInt8 → Option Op
  | [first, reg, second, value] =>
    if first = cmdCmdWrite ∧ second = cmdDataWrite then some (.writeRegister reg value)
    else if first = cmdCmdWrite ∧ second = cmdDataRead ∧ value = 0 then some (.readRegister reg)
    else none
  | [first, value] =>
    if first = cmdCmdWrite then some (.writeCommand value)
    else if first = cmdDataWrite then some (.writeData value)
    else none
  | _ => none

theorem decode_framesOf (o : Op) :
    (framesOf o).map decodeFrame = if o.transacts then [some o] else [] := by
  cases o <;> rfl

section Refinement
variable {engine : TextEngine} {undefinedText : Format → CFloat → List UInt8}

theorem exec_valid {α : Type} {c : IoCall α} (hc : checkTransValid c.transaction = true) (b : Bus) :
    c.exec engine undefinedText b =
      (c.result (exchange engine undefinedText c.transaction.mosi .control b.panel).1.tail,
        ⟨(exchange engine undefinedText c.transaction.mosi .control b.panel).2,
          b.sent ++ [c.transaction.mosi], b.failed⟩) := by
  unfold IoCall.exec
  rw [if_pos hc]

theorem checkTransValid_inline {t : SpiTransaction} (hlength : t.length = 8 ∨ t.length = 24) :
    checkTransValid t = true := by
  have hbounds : ∀ n ∈ ([8, 24] : List UInt32),
      n.toNat ≤ 32 ∧ n.toNat ≤ maxTransferSize * 8 ∧ n ≠ 0 ∧ n.toNat ≤ dmaMaxBitLen := by decide
  obtain ⟨hinline, hmax, hsome, hdma⟩ := hbounds t.length (by simpa using hlength)
  simp [checkTransValid, hinline, hmax, hsome, hdma]

theorem mosi_inline {t : SpiTransaction} (hflags : t.flags &&& spiTransUseTxdata ≠ 0) :
    t.mosi = t.cmd.toUInt8 :: t.txData.take (t.length.toNat / 8) := by
  unfold SpiTransaction.mosi
  rw [if_pos hflags]

theorem exec_inline {α : Type} (c : IoCall α) (first : UInt8) (n : ℕ) (b : Bus)
    (hlength : c.transaction.length = 8 ∧ n = 1 ∨ c.transaction.length = 24 ∧ n = 3)
    (hcmd : c.transaction.cmd = first.toUInt16)
    (hflags : c.transaction.flags = spiTransUseTxdata ∨
      c.transaction.flags = spiTransUseTxdata ||| spiTransUseRxdata) :
    c.exec engine undefinedText b =
      let bytes := first :: c.transaction.txData.take n
      (c.result (exchange engine undefinedText bytes .control b.panel).1.tail,
        ⟨(exchange engine undefinedText bytes .control b.panel).2, b.sent ++ [bytes], b.failed⟩) := by
  have hset : spiTransUseTxdata &&& spiTransUseTxdata ≠ 0 ∧
      (spiTransUseTxdata ||| spiTransUseRxdata) &&& spiTransUseTxdata ≠ 0 := by decide
  have hbytes : c.transaction.flags &&& spiTransUseTxdata ≠ 0 := by
    rcases hflags with h | h
    · rw [h]
      exact hset.1
    · rw [h]
      exact hset.2
  have hfirst : c.transaction.cmd.toUInt8 = first := by simp [hcmd]
  rcases hlength with ⟨hlength, rfl⟩ | ⟨hlength, rfl⟩
  · have hsize : c.transaction.length.toNat / 8 = 1 := by
      rw [hlength]
      decide
    rw [exec_valid (checkTransValid_inline (Or.inl hlength)), mosi_inline hbytes, hfirst, hsize]
  · have hsize : c.transaction.length.toNat / 8 = 3 := by
      rw [hlength]
      decide
    rw [exec_valid (checkTransValid_inline (Or.inr hlength)), mosi_inline hbytes, hfirst, hsize]

theorem exec_writeCommand (reg : UInt8) (b : Bus) :
    (ioWriteCommand reg).exec engine undefinedText b =
      ((), ⟨{ b.panel with latch := reg }, b.sent ++ [[cmdCmdWrite, reg]], b.failed⟩) :=
  exec_inline (ioWriteCommand reg) cmdCmdWrite 1 b (Or.inl ⟨rfl, rfl⟩) rfl (Or.inl rfl)

theorem exec_writeData (value : UInt8) (b : Bus) :
    (ioWriteData value).exec engine undefinedText b =
      ((), ⟨b.panel.data engine value, b.sent ++ [[cmdDataWrite, value]], b.failed⟩) :=
  exec_inline (ioWriteData value) cmdDataWrite 1 b (Or.inl ⟨rfl, rfl⟩) rfl (Or.inl rfl)

theorem exec_readData (b : Bus) :
    ioReadData.exec engine undefinedText b =
      (PanelState.answer undefinedText (.readRegister b.panel.latch) b.panel,
        ⟨b.panel, b.sent ++ [[cmdDataRead, 0]], b.failed⟩) :=
  exec_inline ioReadData cmdDataRead 1 b (Or.inl ⟨rfl, rfl⟩) rfl (Or.inr rfl)

theorem bus_step (o : Op) (b : Bus) :
    bus engine undefinedText o b =
      ((panel engine undefinedText o b.panel).1,
        ⟨(panel engine undefinedText o b.panel).2, b.sent ++ framesOf o, b.failed⟩) := by
  cases o with
  | writeCommand reg => exact exec_writeCommand reg b
  | writeData value => exact exec_writeData value b
  | writeRegister reg value =>
    exact exec_inline (ioWriteRegister reg value) cmdCmdWrite 3 b (Or.inr ⟨rfl, rfl⟩) rfl
      (Or.inl rfl)
  | readRegister reg =>
    exact exec_inline (ioReadRegister reg) cmdCmdWrite 3 b (Or.inr ⟨rfl, rfl⟩) rfl (Or.inr rfl)
  | _ =>
    change (_, Bus.mk _ _ _) = (_, Bus.mk _ (b.sent ++ []) _)
    rw [List.append_nil]

theorem bus_view (o : firmware.Op) (b : Bus) :
    (bus engine undefinedText o b).1 = (panel engine undefinedText o b.panel).1 ∧
      (bus engine undefinedText o b).2.panel = (panel engine undefinedText o b.panel).2 := by
  rw [bus_step]
  exact ⟨rfl, rfl⟩

theorem plainBus_step (o : Op) (b : Bus) :
    (plainBus engine undefinedText o b).1 = (panel engine undefinedText o b.panel).1 ∧
      (plainBus engine undefinedText o b).2.panel = (panel engine undefinedText o b.panel).2 := by
  cases o with
  | writeRegister reg value =>
    change ((ioWriteData value).exec engine undefinedText _).1 = _ ∧
      ((ioWriteData value).exec engine undefinedText _).2.panel = _
    rw [exec_writeData, exec_writeCommand]
    exact ⟨rfl, rfl⟩
  | readRegister reg =>
    change (ioReadData.exec engine undefinedText _).1 = _ ∧
      (ioReadData.exec engine undefinedText _).2.panel = _
    rw [exec_readData, exec_writeCommand]
    exact ⟨rfl, rfl⟩
  | _ => exact bus_view _ b

theorem panel_run {α : Type} (p : Firmware α) (b : Bus) :
    (finish (bus engine undefinedText) p b).panel =
        finish (panel engine undefinedText) p b.panel ∧
      (finish (bus engine undefinedText) p b).failed = b.failed := by
  refine ⟨(run_view _ Bus.panel bus_view p b).2.1, ?_⟩
  exact Hoare.of_step (P := fun u : Bus => u.failed = b.failed) (fun o u hu => by
    rw [bus_step]
    exact hu) b rfl

theorem sent_run {α : Type} (p : Firmware α) (b : Bus) :
    ∃ frames, (run (bus engine undefinedText) p b).2.sent = b.sent ++ frames ∧
      frames.map decodeFrame =
        ((trace (bus engine undefinedText) p b).filter Op.transacts).map some := by
  induction p generalizing b with
  | ret a => exact ⟨[], (List.append_nil _).symm, rfl⟩
  | op o k ih =>
    obtain ⟨frames, hsent, hdecode⟩ := ih (bus engine undefinedText o b).1
      (bus engine undefinedText o b).2
    have hfirst : (bus engine undefinedText o b).2.sent = b.sent ++ framesOf o := by
      rw [bus_step]
    refine ⟨framesOf o ++ frames, ?_, ?_⟩
    · change (run _ (k _) (bus engine undefinedText o b).2).2.sent = _
      rw [hsent, hfirst, List.append_assoc]
    · change _ = ((o :: trace _ (k _) (bus engine undefinedText o b).2).filter _).map _
      rw [List.map_append, decode_framesOf, hdecode, List.filter_cons]
      split_ifs <;> rfl

end Refinement

/-- On the SPI bus every program of the firmware gets the answers and leaves the panel as on
    the registers. No assertion of io.c fails, the bytes sent spell the register accesses,
    and the combined transactions have the effect of the separate ones. -/
theorem bus_refines_panel (engine : TextEngine) (undefinedText : Format → CFloat → List UInt8)
    {α : Type} (p : Firmware α) (b : Bus) :
    let onBus := run (bus engine undefinedText) p b
    let onPanel := run (panel engine undefinedText) p b.panel
    let plain := run (plainBus engine undefinedText) p b
    (onBus.1 = onPanel.1 ∧ onBus.2.panel = onPanel.2 ∧ onBus.2.failed = b.failed) ∧
    (∃ frames, onBus.2.sent = b.sent ++ frames ∧ frames.map decodeFrame =
      ((trace (panel engine undefinedText) p b.panel).filter Op.transacts).map some) ∧
    onBus.1 = plain.1 ∧ onBus.2.panel = plain.2.panel := by
  intro onBus onPanel plain
  obtain ⟨hanswer, hpanel, htrace⟩ := run_view _ Bus.panel bus_view p b
  obtain ⟨hplain, hplainPanel, -⟩ := run_view _ Bus.panel plainBus_step p b
  have hfailed : onBus.2.failed = b.failed := (panel_run p b).2
  obtain ⟨frames, hsent, hdecode⟩ : ∃ frames, onBus.2.sent = b.sent ++ frames ∧ _ := sent_run p b
  rw [htrace] at hdecode
  exact ⟨⟨hanswer, hpanel, hfailed⟩, ⟨frames, hsent, hdecode⟩, hanswer.trans hplain.symm,
    hpanel.trans hplainPanel.symm⟩

def drawDataSetup (x y : UInt16) : Firmware Unit := do
  setDoubleRegister 0x46 x
  setDoubleRegister 0x48 y
  ra8875WriteCommand 0x02

/-- `RA8875_draw_data`, for a pointer to at least `len` bytes. -/
def ra8875DrawData (engine : TextEngine) (undefinedText : Format → CFloat → List UInt8)
    (x y : UInt16) (buffer : List UInt8) (len : ℤ) (b : Bus) : Bus :=
  ((ioWriteDataBlock buffer len).exec engine undefinedText
    (finish (bus engine undefinedText) (drawDataSetup x y) b)).2

def drawDataBytewise (x y : UInt16) (bytes : List UInt8) : Firmware Unit := do
  drawDataSetup x y
  bytes.forM ra8875WriteData

section Blocks
variable {engine : TextEngine} {undefinedText : Format → CFloat → List UInt8}

theorem exchange_write (bytes : List UInt8) (s : PanelState) :
    (exchange engine undefinedText bytes .write s).2 =
      finish (panel engine undefinedText) (bytes.forM ra8875WriteData) s := by
  induction bytes generalizing s with
  | nil => rfl
  | cons byte bytes ih => exact ih (s.data engine byte)

theorem exchange_dataWrite (bytes : List UInt8) (s : PanelState) :
    (exchange engine undefinedText (cmdDataWrite :: bytes) .control s).2 =
      finish (panel engine undefinedText) (bytes.forM ra8875WriteData) s :=
  exchange_write bytes s

theorem toNat_length {nbytes : ℤ} (hint : -2 ^ 31 ≤ nbytes * 8 ∧ nbytes * 8 < 2 ^ 31) :
    ((UInt32.ofInt (nbytes * 8)).toNat : ℤ) = if 0 ≤ nbytes then nbytes * 8 else 2 ^ 32 + nbytes * 8 := by
  unfold UInt32.ofInt
  rw [UInt32.toNat_ofNat']
  split_ifs <;> omega

theorem checkTransValid_block {buffer : List UInt8} {nbytes : ℤ}
    (hint : -2 ^ 31 ≤ nbytes * 8 ∧ nbytes * 8 < 2 ^ 31) :
    checkTransValid (ioWriteDataBlock buffer nbytes).transaction = true ↔
      1 ≤ nbytes ∧ nbytes ≤ 8184 := by
  have hlength := toNat_length hint
  have hmax : maxTransferSize = 8184 := by decide
  have hdma : dmaMaxBitLen = 262144 := by decide
  have hzero : UInt32.ofInt (nbytes * 8) = 0 ↔ nbytes = 0 := by
    rw [← UInt32.toNat_inj, UInt32.toNat_zero]
    split_ifs at hlength <;> omega
  have hflags : (0 : UInt32) &&& spiTransUseTxdata = 0 := by decide
  have hsource : ¬ ¬ ((0 : UInt32) &&& spiTransUseTxdata ≠ 0 ∨ (some buffer).isSome = true) := by simp
  refine decide_eq_true_iff.trans ?_
  change ((0 : UInt32) &&& spiTransUseTxdata = 0 ∨ _) ∧ (UInt32.ofInt _).toNat ≤ _ ∧
    (UInt32.ofInt _ ≠ 0 ∨ ¬ ((0 : UInt32) &&& spiTransUseTxdata ≠ 0 ∨ (some buffer).isSome = true)) ∧
      (UInt32.ofInt _).toNat ≤ _ ↔ _
  rw [hmax, hdma, ne_eq, hzero]
  constructor
  · rintro ⟨-, hfits, hsome, -⟩
    have hne : ¬ nbytes = 0 := hsome.resolve_right hsource
    split_ifs at hlength <;> omega
  · rintro ⟨hone, hfits⟩
    rw [if_pos (by omega)] at hlength
    exact ⟨Or.inl hflags, by omega, Or.inl (by omega), by omega⟩

theorem mosi_block {buffer : List UInt8} {nbytes : ℤ}
    (hint : -2 ^ 31 ≤ nbytes * 8 ∧ nbytes * 8 < 2 ^ 31) (hpos : 0 ≤ nbytes) :
    (ioWriteDataBlock buffer nbytes).transaction.mosi =
      cmdDataWrite :: buffer.take nbytes.toNat := by
  have hlength := toNat_length hint
  rw [if_pos hpos] at hlength
  have hbytes : (UInt32.ofInt (nbytes * 8)).toNat / 8 = nbytes.toNat := by omega
  change cmdDataWrite.toUInt16.toUInt8 :: (if (0 : UInt32) &&& spiTransUseTxdata ≠ 0 then _ else
    buffer).take ((UInt32.ofInt (nbytes * 8)).toNat / 8) = _
  rw [hbytes, if_neg (by decide)]
  rfl

end Blocks

/-- A block reaches the panel whole, as byte by byte, if it has 1 to 8184 bytes; otherwise an
    assertion of io.c fails and none of it is sent. The buffer is valid, and `len * 8` is no
    overflow of an `int`. -/
theorem draw_data_bytewise (engine : TextEngine) (undefinedText : Format → CFloat → List UInt8)
    (x y : UInt16) (buffer : List UInt8) (len : ℤ)
    (hint : -2 ^ 31 ≤ len * 8 ∧ len * 8 < 2 ^ 31) (hbuffer : len ≤ buffer.length) (b : Bus) :
    let r := ra8875DrawData engine undefinedText x y buffer len b
    let bytewise := fun bytes =>
      finish (panel engine undefinedText) (drawDataBytewise x y bytes) b.panel
    (1 ≤ len ∧ len ≤ 8184 → r.panel = bytewise (buffer.take len.toNat) ∧ r.failed = b.failed ∧
      ∃ before, r.sent = before ++ [cmdDataWrite :: buffer.take len.toNat] ∧
        (buffer.take len.toNat).length = len.toNat) ∧
    (¬ (1 ≤ len ∧ len ≤ 8184) → r.panel = bytewise [] ∧ r.failed = true) := by
  intro r bytewise
  have hsetup : (finish (bus engine undefinedText) (drawDataSetup x y) b).panel =
      finish (panel engine undefinedText) (drawDataSetup x y) b.panel ∧
      (finish (bus engine undefinedText) (drawDataSetup x y) b).failed = b.failed :=
    panel_run (drawDataSetup x y) b
  have hbytewise : ∀ bytes, bytewise bytes = finish (panel engine undefinedText)
      (bytes.forM ra8875WriteData)
      (finish (bus engine undefinedText) (drawDataSetup x y) b).panel := by
    intro bytes
    rw [hsetup.1]
    exact finish_bind _ _ _ _
  have hr : r = ((ioWriteDataBlock buffer len).exec engine undefinedText
      (finish (bus engine undefinedText) (drawDataSetup x y) b)).2 := rfl
  clear_value r
  generalize finish (bus engine undefinedText) (drawDataSetup x y) b = u at hsetup hbytewise hr
  constructor
  · intro hfits
    have hvalid : checkTransValid (ioWriteDataBlock buffer len).transaction = true :=
      (checkTransValid_block hint).mpr hfits
    rw [exec_valid hvalid, mosi_block hint (by omega)] at hr
    rw [hr, hbytewise, exchange_dataWrite]
    refine ⟨rfl, hsetup.2, u.sent, rfl, ?_⟩
    rw [List.length_take]
    omega
  · intro hfits
    have hvalid : ¬ checkTransValid (ioWriteDataBlock buffer len).transaction = true :=
      fun h => hfits ((checkTransValid_block hint).mp h)
    have hfail : r = { u with failed := true } := by
      rw [hr]
      unfold IoCall.exec
      rw [if_neg hvalid]
    rw [hfail, hbytewise]
    exact ⟨rfl, rfl⟩

def inkless : TextEngine := ⟨fun _ _ l => l, fun _ i => (UInt16.ofNat i.cursorX, UInt16.ofNat i.cursorY)⟩

theorem draw_data_bytewise_limit :
    let b : Bus := ⟨.powerUp fun _ _ _ => black, [], false⟩
    let draw := fun len => ra8875DrawData inkless (fun _ _ => []) 0 0 (List.replicate 9000 7) len b
    (draw 8184).failed = false ∧ (draw 8185).failed = true := by
  intro b draw
  have hlength : (List.replicate 9000 (7 : UInt8)).length = 9000 := List.length_replicate
  have hfits := draw_data_bytewise inkless (fun _ _ => []) 0 0 (List.replicate 9000 7) 8184
    (by omega) (by rw [hlength]; omega) b
  have hlong := draw_data_bytewise inkless (fun _ _ => []) 0 0 (List.replicate 9000 7) 8185
    (by omega) (by rw [hlength]; omega) b
  exact ⟨(hfits.1 (by omega)).2.1, (hlong.2 (by omega)).2⟩

end SteeringDisplay.SpiTransactions
