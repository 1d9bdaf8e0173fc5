import Mathlib
import UniversalMachine.Proofs.Machine.FaultAtomicity
import UniversalMachine.Proofs.Machine.StepLimit

/-!
What becomes of the bytes that a host and a machine exchange through a buffer. A record is
kept of the input and output instructions that are carried out, of what the host pushes, and
of what it takes. Input and output are then accounted for byte by byte: what instructions
have received and what is still queued is what the host has given, and what the host has
taken and what it may still take is what instructions have sent.
-/

namespace UniversalMachine

/-- What an instruction exchanges with a buffer. -/
inductive Transfer where
  /-- An input instruction found the bytes `queue`, put `value` in its register and left the
  bytes `rest`. -/
  | input (queue : List UInt8) (value : Word) (rest : List UInt8)
  /-- An output instruction was carried out on a register that held `value`. -/
  | output (value : Word)
  deriving DecidableEq

namespace Transfer

/-- What a program learns to be an input byte. -/
def received? : Transfer → Option Word
  | input _ value _ => if value = endOfInput then none else some value
  | output _ => none

def sent? : Transfer → Option Word
  | input _ _ _ => none
  | output value => some value

/-- An input takes the first byte of the queue, and nothing from an empty queue; an output is
of a value that a byte can hold. -/
def Exact : Transfer → Prop
  | input [] value rest => value = 0xFFFFFFFF ∧ rest = []
  | input (byte :: queue) value rest => value = byte.toUInt32 ∧ rest = queue
  | output value => value.toNat ≤ 255

end Transfer

def words (bytes : List UInt8) : List Word :=
  bytes.map UInt8.toUInt32

namespace Machine

/-- What the next step exchanges with the buffer. An output instruction that faults
exchanges nothing. -/
def transfer? (m : Machine Buffer) : Option Transfer :=
  match m.next? with
  | some (.standard .input o) =>
      some (.input m.channel.input (m.stepped.registers.get o.c) m.stepped.channel.input)
  | some (.standard .output o) =>
      if m.step.1 = .ok .running then some (.output (m.registers.get o.c)) else none
  | _ => none

/-- What a run with a limit exchanges with the buffer, in the order of the steps. -/
def transfers : ℕ → Machine Buffer → List Transfer
  | 0, _ => []
  | limit + 1, m =>
      m.transfer?.toList ++
        match m.step with
        | (.ok .running, m) => transfers limit m
        | _ => []

/-- The exchanges on the way from one machine to another account for what has become of the
buffer. -/
structure Conveys (m m' : Machine Buffer) (ts : List Transfer) : Prop where
  input : words m.channel.input = ts.filterMap Transfer.received? ++ words m'.channel.input
  output : words m'.channel.output.toList =
    words m.channel.output.toList ++ ts.filterMap Transfer.sent?
  exact : ∀ t ∈ ts, t.Exact

namespace Conveys

theorem of_channel_eq {m m' : Machine Buffer} (same : m'.channel = m.channel) :
    Conveys m m' [] := by
  constructor <;> simp [same]

theorem trans {m m' m'' : Machine Buffer} {ts ts' : List Transfer} (first : Conveys m m' ts)
    (second : Conveys m' m'' ts') : Conveys m m'' (ts ++ ts') where
  input := by rw [first.input, second.input, List.filterMap_append, List.append_assoc]
  output := by rw [second.output, first.output, List.filterMap_append, List.append_assoc]
  exact t mem := (List.mem_append.mp mem).elim (first.exact t) (second.exact t)

end Conveys

/-! ### One step -/

theorem toUInt32_ne_endOfInput (byte : UInt8) : byte.toUInt32 ≠ endOfInput := by
  intro same
  have value := congrArg UInt32.toNat same
  rw [UInt8.toNat_toUInt32] at value
  have small := byte.toNat_lt
  simp only [endOfInput, UInt32.reduceToNat] at value
  omega

theorem transfer?_eq_none {m : Machine Buffer} (noInput : m.nextOperator? ≠ some .input)
    (noOutput : m.nextOperator? ≠ some .output) : m.transfer? = none := by
  rw [transfer?]
  split
  next o next => exact absurd (nextOperator?_eq_some_iff.mpr ⟨o, next⟩) noInput
  next o next => exact absurd (nextOperator?_eq_some_iff.mpr ⟨o, next⟩) noOutput
  next => rfl

theorem channel_stepped {m : Machine Buffer} (noInput : m.nextOperator? ≠ some .input)
    (noOutput : m.nextOperator? ≠ some .output) : m.stepped.channel = m.channel := by
  by_cases running : m.status = .running
  · have transition := transition running
    rw [← stepped] at transition
    generalize m.stepped = m', m.step.1 = answer at transition ⊢
    cases transition with
    | @next word _ fetched executed =>
        have frame := frame_execute m.advance word
        rw [nextOperator?, next?_of_fetched running fetched, Option.bind_some]
          at noInput noOutput
        rw [executed] at frame
        exact frame.channel noInput noOutput
    -- Flushing a buffer and being refused by it leave it as it is.
    | halt fetched decoded flushed => exact (Prod.ext_iff.mp flushed).2.symm
    | fetchFault => rfl
    | fault fetched cause idle => exact buffer_eq_of_idle idle
  · rw [stepped_of_stopped running]

theorem step_input {m : Machine Buffer} {o : Operands}
    (next : m.next? = some (.standard .input o)) :
    (m.channel.input = [] ∧ m.step = (.ok .running, m.advance.assign o.c endOfInput)) ∨
      ∃ byte rest, m.channel.input = byte :: rest ∧
        m.step = (.ok .running, { m.advance with
          channel := { m.channel with input := rest } }.assign o.c byte.toUInt32) := by
  obtain ⟨running, word, fetched, decoded⟩ := fetched_of_next? next
  cases queue : m.channel.input with
  | nil =>
      have read : Channel.read m.advance.channel = (.ok none, m.advance.channel) :=
        Buffer.read_of_empty queue
      refine .inl ⟨rfl, step_of_next running fetched ?_⟩
      simp only [execute, decoded, perform, read]
      rfl
  | cons byte rest =>
      have read : Channel.read m.advance.channel =
          (.ok (some byte), { m.channel with input := rest }) := Buffer.read_of_queued queue
      refine .inr ⟨byte, rest, rfl, step_of_next running fetched ?_⟩
      simp only [execute, decoded, perform, read]
      rfl

theorem step_output {m : Machine Buffer} {o : Operands}
    (next : m.next? = some (.standard .output o)) :
    ((m.registers.get o.c).toNat ≤ 255 ∧
      m.step = (.ok .running, { m.advance with
        channel.output := m.channel.output.push (m.registers.get o.c).toUInt8 })) ∨
      m.step = m.advance.stop (.outOfRange (m.registers.get o.c)) := by
  obtain ⟨running, word, fetched, decoded⟩ := fetched_of_next? next
  by_cases small : m.registers.get o.c < 256
  · refine .inl ⟨Nat.le_of_lt_succ (UInt32.lt_iff_toNat_lt.mp small),
      step_of_next running fetched ?_⟩
    have small' : m.advance.registers.get o.c < 256 := small
    simp only [execute, decoded, perform, if_pos small']
    rfl
  · refine .inr (step_of_fault running fetched ?_)
    have large : ¬ m.advance.registers.get o.c < 256 := small
    simp only [execute, decoded, perform, if_neg large]
    rfl

theorem conveys_input {m : Machine Buffer} {o : Operands}
    (next : m.next? = some (.standard .input o)) : Conveys m m.stepped m.transfer?.toList := by
  have received {m' : Machine Buffer} {r : Register} {value : Word} :
      (m'.assign r value).registers.get r = value := by rw [get_assign, if_pos rfl]
  simp only [transfer?, next, Option.toList_some]
  obtain ⟨empty, answered⟩ | ⟨byte, rest, queued, answered⟩ := step_input next
  · rw [stepped, answered, empty, received]
    exact {
      input := by simp [words, empty, Transfer.received?, assign, advance]
      output := by simp [Transfer.sent?, assign, advance]
      exact := by simp [Transfer.Exact, endOfInput, assign, advance, empty] }
  · rw [stepped, answered, queued, received]
    exact {
      input := by
        simp [words, queued, Transfer.received?, assign, toUInt32_ne_endOfInput]
      output := by simp [Transfer.sent?, assign]
      exact := by simp [Transfer.Exact, assign] }

theorem conveys_output {m : Machine Buffer} {o : Operands}
    (next : m.next? = some (.standard .output o)) : Conveys m m.stepped m.transfer?.toList := by
  simp only [transfer?, next]
  obtain ⟨small, answered⟩ | answered := step_output next
  · have byte : (m.registers.get o.c).toUInt8.toUInt32 = m.registers.get o.c := by
      rw [← UInt32.toNat_inj, UInt8.toNat_toUInt32, UInt32.toNat_toUInt8]
      omega
    rw [stepped, answered]
    exact {
      input := by simp [Transfer.received?, advance]
      output := by simp [words, Transfer.sent?, byte]
      exact := by simpa [Transfer.Exact] using small }
  · rw [stepped, answered]
    exact .of_channel_eq rfl

theorem conveys_step (m : Machine Buffer) : Conveys m m.stepped m.transfer?.toList := by
  by_cases input : m.nextOperator? = some .input
  · obtain ⟨o, next⟩ := nextOperator?_eq_some_iff.mp input
    exact conveys_input next
  by_cases output : m.nextOperator? = some .output
  · obtain ⟨o, next⟩ := nextOperator?_eq_some_iff.mp output
    exact conveys_output next
  rw [transfer?_eq_none input output]
  exact .of_channel_eq (channel_stepped input output)

/-! ### Runs and dialogues -/

theorem transfers_succ (m : Machine Buffer) (limit : ℕ) :
    m.transfers (limit + 1) = m.transfer?.toList ++
      if m.stepped.status = .running then m.stepped.transfers limit else [] := by
  rw [transfers, step_eq]
  cases m.stepped.status <;> simp [Status.answer]

theorem conveys_run (m : Machine Buffer) (limit : ℕ) :
    Conveys m (m.run limit).2 (m.transfers limit) := by
  induction limit generalizing m with
  | zero => exact .of_channel_eq rfl
  | succ limit ih =>
      have first := conveys_step m
      rw [run_succ, transfers_succ]
      by_cases running : m.stepped.status = .running
      · rw [if_pos running, if_pos running]
        exact first.trans (ih m.stepped)
      · rw [if_neg running, if_neg running, List.append_nil]
        exact first

end Machine

/-- What a host has exchanged with a machine, and what the machine's instructions have. -/
structure History where
  transfers : List Transfer := []
  pushed : List UInt8 := []
  taken : List UInt8 := []

namespace History

def received (h : History) : List Word :=
  h.transfers.filterMap Transfer.received?

def sent (h : History) : List Word :=
  h.transfers.filterMap Transfer.sent?

def transfer (h : History) (ts : List Transfer) : History :=
  { h with transfers := h.transfers ++ ts }

end History

/-- A machine that was started on a program and an input, and what was exchanged since then
by steps, runs, pushes and takes in any order. -/
inductive Dialogue (program : Array Word) (input : List UInt8) : Machine Buffer → History → Prop
  | start : Dialogue program input (.start program { input }) {}
  | step {m : Machine Buffer} {h : History} (dialogue : Dialogue program input m h) :
      Dialogue program input m.step.2 (h.transfer m.transfer?.toList)
  | run {m : Machine Buffer} {h : History} (dialogue : Dialogue program input m h)
      (limit : ℕ) : Dialogue program input (m.run limit).2 (h.transfer (m.transfers limit))
  | runToEnd {m m' : Machine Buffer} {h : History} {fuel : ℕ} {answer : Except Fault Status}
      (dialogue : Dialogue program input m h)
      (ended : m.runToEnd? fuel = some (answer, m')) :
      Dialogue program input m' (h.transfer (m.transfers fuel))
  | push {m : Machine Buffer} {h : History} (dialogue : Dialogue program input m h)
      (bytes : List UInt8) :
      Dialogue program input { m with channel := m.channel.push bytes }
        { h with pushed := h.pushed ++ bytes }
  | take {m : Machine Buffer} {h : History} (dialogue : Dialogue program input m h) :
      Dialogue program input { m with channel := m.channel.take.2 }
        { h with taken := h.taken ++ m.channel.take.1.toList }

/-- The history of a machine accounts for every byte. -/
structure Accounts (input : List UInt8) (m : Machine Buffer) (h : History) : Prop where
  input : h.received ++ words m.channel.input = words (input ++ h.pushed)
  output : words (h.taken ++ m.channel.output.toList) = h.sent
  exact : ∀ t ∈ h.transfers, t.Exact

theorem Accounts.transfer {input : List UInt8} {m m' : Machine Buffer} {h : History}
    {ts : List Transfer} (accounts : Accounts input m h) (conveys : m.Conveys m' ts) :
    Accounts input m' (h.transfer ts) where
  input := by
    rw [History.transfer, History.received, List.filterMap_append, List.append_assoc,
      ← conveys.input]
    exact accounts.input
  output := by
    rw [History.transfer, History.sent, List.filterMap_append]
    rw [← History.sent, ← accounts.output]
    simp only [words, List.map_append, List.append_assoc]
    rw [← words, ← words, conveys.output]
    rfl
  exact t mem := (List.mem_append.mp mem).elim (accounts.exact t) (conveys.exact t)

theorem Dialogue.accounts {program : Array Word} {input : List UInt8} {m : Machine Buffer}
    {h : History} (dialogue : Dialogue program input m h) : Accounts input m h := by
  induction dialogue with
  | start => constructor <;> simp [Machine.start, History.received, History.sent, words]
  | step _ ih => exact ih.transfer (Machine.conveys_step _)
  | run _ limit ih => exact ih.transfer (Machine.conveys_run _ limit)
  | @runToEnd m m' h fuel answer _ ended ih =>
      -- The fuel was enough; so it is a run with the fuel as its limit.
      obtain ⟨same, -⟩ := Machine.run_eq_of_runToEnd? ended
      have conveys := Machine.conveys_run m fuel
      rw [same] at conveys
      exact ih.transfer conveys
  | push _ bytes ih =>
      refine { ih with input := ?_ }
      have before := ih.input
      simp only [words, Buffer.push, List.map_append, ← List.append_assoc] at before ⊢
      rw [← before]
      rfl
  | take _ ih =>
      refine { ih with output := ?_ }
      simpa [Buffer.take, History.sent] using ih.output

/-- However a host interleaves steps, runs, pushes and takes: what input instructions have
delivered, followed by what is still queued, is the first input and all that was pushed, in
order; and what was taken, followed by the present output, is what output instructions have
sent, in order. Each input instruction put the first byte that was queued in its register, or
the word that stands for the end of input when there was none. -/
theorem bytes_conserved {program : Array Word} {input : List UInt8} {m : Machine Buffer}
    {h : History} (dialogue : Dialogue program input m h) :
    h.received ++ words m.channel.input = words (input ++ h.pushed) ∧
      (∀ t ∈ h.transfers, t.Exact) ∧
      words (h.taken ++ m.channel.output.toList) = h.sent ∧
      ∀ value ∈ h.sent, value.toNat ≤ 255 := by
  have accounts := dialogue.accounts
  refine ⟨accounts.input, accounts.exact, accounts.output, ?_⟩
  intro value mem
  obtain ⟨t, transferred, sent⟩ := List.mem_filterMap.mp mem
  have exact := accounts.exact t transferred
  cases t with
  | input => cases sent
  | output sentValue =>
      obtain rfl := Option.some.inj sent
      exact exact

/-- Input ends after one byte and goes on with a second one that is pushed later; the first
output is taken before the second is sent. -/
theorem echo_after_end_of_input :
    let program : Array Word := #[0xB0000001, 0xB0000002, 0xA0000001, 0xB0000003, 0xA0000003,
      0x70000000]
    ∃ (m : Machine Buffer) (h : History), Dialogue program [65] m h ∧ m.status = .halted ∧
      h.transfers = [.input [65] 65 [], .input [] 0xFFFFFFFF [], .output 65,
        .input [66] 66 [], .output 66] ∧
      h.received ++ words m.channel.input = words ([65] ++ h.pushed) ∧
      words (h.taken ++ m.channel.output.toList) = h.sent := by
  intro program
  have started : Dialogue program [65] (.start program { input := [65] }) {} := .start
  have dialogue := started.step.step.push [66] |>.step.take.run 9
  obtain ⟨received, -, sent, -⟩ := bytes_conserved dialogue
  exact ⟨_, _, dialogue, by decide, by decide, received, sent⟩

end UniversalMachine
