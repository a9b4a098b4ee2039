import Blitter.Proofs.Engine.Launch

/-!
# The version register

A write of the version register is lost, and a reset brings its word back. But the register is a
word of the window like any other: a write that goes past its first byte reaches it, and so does
every write that is replayed from command memory. `Engine.slipped?` is what an access leaves in the
word by such ways. The register tells the version of the engine at every moment of a run exactly if
nothing but that version slips into it (`Engine.tellsVersion_iff`), and no access slips anything into
it if no offset from the word is ever used, the register's own in direct writes apart
(`Access.SparesVersion`).
-/

namespace Blitter

open CommandBuffer BufferPool

/-- The offset lies in the word of the version register. -/
def Register.InVersion (o : UInt32) : Prop := version ≤ o.toNat ∧ o.toNat < version + 4

instance (o : UInt32) : Decidable (Register.InVersion o) := inferInstanceAs (Decidable (_ ∧ _))

theorem Register.inVersion_iff {o : UInt32} :
    InVersion o ↔ RegisterFile.slot o = RegisterFile.slot (UInt32.ofNat version) := by
  have hslot : RegisterFile.slot (UInt32.ofNat version) = 0 := by decide
  rw [hslot, RegisterFile.slot, InVersion, version]
  omega

theorem Register.slot_version_lt :
    RegisterFile.slot (UInt32.ofNat version) < registerCount := by decide

/-- The access uses **no offset of the version's word**, other than to write the register itself, and
brings none to command memory. -/
def Access.SparesVersion : Access → Prop
  | .write w => w.offset.toNat = Register.version ∨ ¬ Register.InVersion w.offset
  | .upload _ words => ∀ w ∈ Engine.pairs words, ¬ Register.InVersion w.offset

instance : (a : Access) → Decidable a.SparesVersion
  | .write _ => inferInstanceAs (Decidable (_ ∨ _))
  | .upload _ _ => inferInstanceAs (Decidable (∀ _ ∈ _, _))

namespace Engine

variable {e e' e'' : Engine} {ws vs : List RegisterWrite}

/-! ### Replayed writes -/

/-- The engine **took these writes from its memory**, and nothing else changed its version
register. -/
structure Took (e e' : Engine) (ws : List RegisterWrite) : Prop where
  version : e'.version = e.version
  memory : e'.memory = e.memory
  log : e'.log = e.log ++ ws
  stored : ∀ w ∈ ws, ∃ m ∈ e.memory, w ∈ pairs m.2
  read : e'.read Register.version = (e.registers.apply ws).read Register.version

namespace Took

theorem refl (e : Engine) : e.Took e [] where
  version := rfl
  memory := rfl
  log := (List.append_nil _).symm
  stored := List.forall_mem_nil _
  read := rfl

theorem trans (h : e.Took e' ws) (h' : e'.Took e'' vs) : e.Took e'' (ws ++ vs) where
  version := h'.version.trans h.version
  memory := h'.memory.trans h.memory
  log := by rw [h'.log, h.log, List.append_assoc]
  stored := by
    intro w hw
    rcases List.mem_append.mp hw with hw | hw
    · exact h.stored w hw
    · exact h.memory ▸ h'.stored w hw
  read := by
    rw [h'.read, RegisterFile.apply_append]
    exact RegisterFile.get_apply_congr vs h.read

theorem of_replayAll {m : UInt64 × List UInt32} (hm : m ∈ e.memory)
    (hws : ∀ w ∈ ws, w ∈ pairs m.2) : e.Took (e.replayAll ws) ws := by
  have hlog := e.log_replayAll ws
  rw [replayAll_eq] at *
  exact ⟨rfl, rfl, hlog, fun w hw => ⟨m, hm, hws w hw⟩, rfl⟩

/-- A store to another register counts for nothing. -/
theorem of_store (e : Engine) {register : Nat}
    (h : ¬ Register.InVersion (UInt32.ofNat register)) (value : UInt32) :
    e.Took (e.store register value) [] where
  version := rfl
  memory := rfl
  log := (List.append_nil _).symm
  stored := List.forall_mem_nil _
  read := RegisterFile.get_set_of_slot_ne _ _ (mt Register.inVersion_iff.mpr h)

/-- What a replay does to the engine is **to take writes from memory**, whether or not the chain
ends. -/
theorem exists_of_replayFrom (e : Engine) (address : UInt64) (entries done fuel : Nat) :
    ∃ ws, e.Took (e.replayFrom address entries done fuel).1 ws := by
  induction fuel generalizing e address entries done with
  | zero => exact ⟨[], refl e⟩
  | succ fuel ih =>
    rw [replayFrom]
    split
    case h_1 => exact ⟨[], refl e⟩
    case h_2 words hwords =>
      obtain ⟨before, after, hmemory, -⟩ := List.lookup_eq_some_iff.mp hwords
      have hm : (address, words) ∈ e.memory := by
        rw [hmemory]
        exact List.mem_append_right _ List.mem_cons_self
      have htook : e.Took (e.replayAll ((pairs words).take entries)) _ :=
        of_replayAll hm fun w hw => List.mem_of_mem_take hw
      dsimp only
      split
      · exact ⟨_, htook⟩
      · obtain ⟨vs, hrest⟩ := ih (e.replayAll ((pairs words).take entries)) _ _ _
        exact ⟨_, htook.trans hrest⟩

/-- A run **takes writes from memory** if it replays a chain, and else none. -/
theorem exists_of_run (e : Engine) (control : UInt32) : ∃ ws, e.Took (e.run control).1 ws := by
  rw [run]
  split
  case isTrue =>
    have hstore : e.Took (e.store Register.chainEnd 0) [] := of_store e (by decide) 0
    obtain ⟨ws, hws⟩ := exists_of_replayFrom (e.store Register.chainEnd 0)
      (joinWords (e.read Register.chainBaseHigh) (e.read Register.chainBaseLow))
      (e.read Register.chainLength).toNat 0 e.bufferCount
    have htook := hstore.trans hws
    refine ⟨ws, ?_⟩
    rw [List.nil_append] at htook
    rw [replayChain]
    split
    case h_1 heq =>
      rw [heq] at htook
      exact ⟨htook.version, htook.memory, htook.log, htook.stored, htook.read⟩
    case h_2 heq =>
      rw [heq] at htook
      exact htook
  case isFalse =>
    have hrefl := refl e
    exact ⟨[], hrefl.version, hrefl.memory, hrefl.log, hrefl.stored, hrefl.read⟩

/-- The report of a start counts for nothing. -/
theorem exists_of_start (e : Engine) (control : UInt32) : ∃ ws, e.Took (e.start control).1 ws := by
  obtain ⟨ws, hrun⟩ := exists_of_run { e with starts := e.starts + 1 } control
  have hreport : ∀ k : Engine, ∀ bits, k.Took (k.reporting bits).1 [] := fun k _ =>
    of_store k (by decide) _
  have htook := hrun.trans (hreport _ (run { e with starts := e.starts + 1 } control).2)
  rw [List.append_nil] at htook
  exact ⟨ws, htook.version, htook.memory, htook.log, htook.stored, htook.read⟩

end Took

/-! ### One access -/

/-- The engine when a write has been logged and nothing else been done. -/
def logged (e : Engine) (w : RegisterWrite) : Engine := { e with journal := w :: e.journal }

/-- The writes that an access brings to the registers: the one that it is, and what is replayed on
it. -/
def brought (e : Engine) (a : Access) : List RegisterWrite := (e.access a).1.log.drop e.log.length

/-- The value that an access **slips into** the word of the version register: the last one that it
brings there, other than by a write of the register itself, which is lost. -/
def slipped? (e : Engine) (a : Access) : Option UInt32 :=
  match a with
  | .write w =>
    if w.offset.toNat = Register.version then none
    else RegisterFile.lastValue? (e.brought a) (UInt32.ofNat Register.version)
  | .upload _ _ => none

/-- A write was logged, and **after it what was replayed on it**. Together they leave the version
register as the last of them that reaches its word does. -/
structure Wrote (e e' : Engine) (w : RegisterWrite) (ws : List RegisterWrite) : Prop where
  version : e'.version = e.version
  memory : e'.memory = e.memory
  log : e'.log = e.log ++ w :: ws
  stored : ∀ v ∈ ws, ∃ m ∈ e.memory, v ∈ pairs m.2
  read : e.read Register.version = e.version → e'.read Register.version =
    (if w.offset.toNat = Register.version then none
      else RegisterFile.lastValue? (w :: ws) (UInt32.ofNat Register.version)).getD e.version

namespace Wrote

variable {w : RegisterWrite}

/-- A write that does not itself reach the version's word leaves it to **what is replayed**. -/
theorem of_took (h : (e.logged w).Took e' ws) (hw : ¬ Register.InVersion w.offset) :
    e.Wrote e' w ws where
  version := h.version
  memory := h.memory
  log := by
    have hlog : (e.logged w).log = e.log ++ [w] := e.log_cons w
    rw [h.log, hlog, List.append_assoc, List.singleton_append]
  stored := h.stored
  read := by
    intro hread
    have hget : e'.read Register.version = _ := h.read.trans
      (RegisterFile.get_apply _ ws Register.slot_version_lt)
    have hlogged : (e.logged w).registers.get (UInt32.ofNat Register.version) = e.version := hread
    have hoffset : w.offset.toNat ≠ Register.version := by
      unfold Register.InVersion at hw
      omega
    rw [hget, hlogged, if_neg hoffset, RegisterFile.lastValue?_cons,
      if_neg (mt Register.inVersion_iff.mpr hw), Option.or_none]

theorem of_reset (hw : ¬ Register.InVersion w.offset) : e.Wrote (e.logged w).reset w [] where
  version := by rw [reset, logged]
  memory := by rw [reset, logged]
  log := List.reverse_cons
  stored := List.forall_mem_nil _
  read := by
    intro _
    have hregisters : (e.logged w).reset.registers =
        RegisterFile.zero.write Register.version e.version := by rw [reset, logged]
    have hreset : (e.logged w).reset.read Register.version = e.version := by
      rw [Engine.read, hregisters]
      exact RegisterFile.get_set_self _ _ Register.slot_version_lt
    rw [hreset, RegisterFile.lastValue?_cons, if_neg (mt Register.inVersion_iff.mpr hw),
      Option.or_none]
    split <;> rfl

theorem of_lost (hw : w.offset.toNat = Register.version) : e.Wrote (e.logged w) w [] where
  version := rfl
  memory := rfl
  log := e.log_cons w
  stored := List.forall_mem_nil _
  read := by
    intro hread
    rw [if_pos hw]
    exact hread

theorem of_set (hw : w.offset.toNat ≠ Register.version) : e.Wrote (e.replayWrite w) w [] where
  version := rfl
  memory := rfl
  log := e.log_cons w
  stored := List.forall_mem_nil _
  read := by
    intro hread
    rw [if_neg hw, ← hread]
    exact RegisterFile.get_apply e.registers [w] Register.slot_version_lt

end Wrote

/-- **Every write** is logged with what is replayed on it, and reaches the version register as they
do. -/
theorem exists_wrote (e : Engine) (w : RegisterWrite) : ∃ ws, e.Wrote (e.write w).1 w ws := by
  have hcontrol : w.offset.toNat = Register.control → ¬ Register.InVersion w.offset := by
    intro h
    unfold Register.InVersion
    rw [h]
    decide
  rw [write]
  dsimp only
  split
  case isTrue hreset => exact ⟨[], .of_reset (hcontrol hreset.1)⟩
  case isFalse =>
    split
    case isTrue hstart =>
      have hstore : (e.logged w).Took ((e.logged w).store Register.control _) [] :=
        .of_store _ (by decide) (w.value &&& ~~~Register.controlStart)
      obtain ⟨ws, hrun⟩ := Took.exists_of_start
        ((e.logged w).store Register.control (w.value &&& ~~~Register.controlStart)) w.value
      exact ⟨ws, .of_took (hstore.trans hrun) (hcontrol hstart.1)⟩
    case isFalse =>
      split
      case isTrue hstatus =>
        have hout : ¬ Register.InVersion w.offset := by
          unfold Register.InVersion
          rw [hstatus]
          decide
        exact ⟨[], .of_took (.of_store _ (by decide) _) hout⟩
      case isFalse =>
        split
        case isTrue hversion => exact ⟨[], .of_lost hversion⟩
        case isFalse hversion => exact ⟨[], .of_set hversion⟩

theorem brought_write {w : RegisterWrite} (h : e.Wrote (e.write w).1 w ws) :
    e.brought (.write w) = w :: ws := by
  show (e.write w).1.log.drop e.log.length = _
  rw [h.log, List.drop_left]

/-- Where the version register tells the version, an access leaves in it **what it slips in**, if it
does, and else the version. -/
theorem read_version_access (e : Engine) (a : Access) (h : e.read Register.version = e.version) :
    (e.access a).1.read Register.version = (e.slipped? a).getD e.version := by
  cases a with
  | upload address words => exact h
  | write w =>
    obtain ⟨ws, hws⟩ := e.exists_wrote w
    rw [slipped?, brought_write hws]
    exact hws.read h

theorem version_access (e : Engine) (a : Access) : (e.access a).1.version = e.version := by
  cases a with
  | upload address words => rfl
  | write w =>
    obtain ⟨_, hws⟩ := e.exists_wrote w
    exact hws.version

/-! ### Runs -/

section Runs

variable {as : List Access}

theorem version_accessAll (e : Engine) (as : List Access) :
    (e.accessAll as).version = e.version := by
  induction as generalizing e with
  | nil => rfl
  | cons a as ih => exact (ih _).trans (e.version_access a)

theorem accessAll_take_succ (e : Engine) {n : Nat} {a : Access} (h : as[n]? = some a) :
    e.accessAll (as.take (n + 1)) = ((e.accessAll (as.take n)).access a).1 := by
  rw [List.take_add_one, h, accessAll_append]
  rfl

/-- The version register tells the version **at every moment of a run** exactly if no access of the
run slips anything else into its word. -/
theorem forall_read_version_iff (h : e.read Register.version = e.version) :
    (∀ n, (e.accessAll (as.take n)).read Register.version = e.version) ↔
      ∀ n a, as[n]? = some a →
        ∀ value ∈ (e.accessAll (as.take n)).slipped? a, value = e.version := by
  have hstep : ∀ n a, as[n]? = some a →
      (e.accessAll (as.take n)).read Register.version = e.version →
        (e.accessAll (as.take (n + 1))).read Register.version =
          ((e.accessAll (as.take n)).slipped? a).getD e.version := by
    intro n a ha hread
    have hversion := e.version_accessAll (as.take n)
    rw [accessAll_take_succ e ha, read_version_access _ a (hread.trans hversion.symm), hversion]
  constructor
  · intro hreads n a ha value hvalue
    have hnext := hstep n a ha (hreads n)
    rw [hreads, Option.mem_def.mp hvalue] at hnext
    exact hnext.symm
  · intro hslips n
    induction n with
    | zero => exact h
    | succ n ih =>
      cases ha : as[n]? with
      | none =>
        rw [List.take_add_one, ha, Option.toList_none, List.append_nil]
        exact ih
      | some a =>
        rw [hstep n a ha ih]
        have hslip := hslips n a ha
        cases hvalue : (e.accessAll (as.take n)).slipped? a with
        | none => rfl
        | some value => exact hslip value hvalue

/-- Command memory holds no write of the version's word. -/
def SparesVersion (e : Engine) : Prop :=
  ∀ m ∈ e.memory, ∀ w ∈ pairs m.2, ¬ Register.InVersion w.offset

namespace SparesVersion

variable {a : Access}

theorem access (h : e.SparesVersion) (ha : a.SparesVersion) : (e.access a).1.SparesVersion := by
  cases a with
  | upload address words =>
    intro m hm
    rcases List.mem_cons.mp hm with rfl | hm
    · exact ha
    · exact h m (List.mem_filter.mp hm).1
  | write w =>
    obtain ⟨_, hws⟩ := e.exists_wrote w
    intro m hm
    exact h m (hws.memory ▸ hm)

theorem accessAll (h : e.SparesVersion) (has : ∀ a ∈ as, a.SparesVersion) :
    (e.accessAll as).SparesVersion := by
  induction as generalizing e with
  | nil => exact h
  | cons a as ih =>
    obtain ⟨ha, has⟩ := List.forall_mem_cons.mp has
    exact ih (h.access ha) has

/-- Where neither the access nor command memory has an offset of the version's word, **nothing
slips into it**. -/
theorem slipped?_eq_none (h : e.SparesVersion) (ha : a.SparesVersion) : e.slipped? a = none := by
  cases a with
  | upload address words => rfl
  | write w =>
    obtain ⟨ws, hws⟩ := e.exists_wrote w
    unfold slipped?
    dsimp only
    split
    case isTrue => rfl
    case isFalse hversion =>
      refine RegisterFile.lastValue?_eq_none fun hmem => ?_
      obtain ⟨v, hv, hslot⟩ := List.mem_map.mp hmem
      have hin : Register.InVersion v.offset := Register.inVersion_iff.mpr hslot
      rw [brought_write hws] at hv
      rcases List.mem_cons.mp hv with rfl | hv
      · exact ha.resolve_left hversion hin
      · obtain ⟨m, hm, hmem⟩ := hws.stored v hv
        exact h m hm v hmem hin

end SparesVersion

end Runs

/-! ### Engines from power-up -/

/-- The version register **tells this word** at every moment of the run. -/
def TellsVersion (e : Engine) (as : List Access) (word : UInt32) : Prop :=
  ∀ n, (e.accessAll (as.take n)).read Register.version = word

/-- No access of the run slips **anything but this word** into that of the version register. -/
def SlipsOnly (e : Engine) (as : List Access) (word : UInt32) : Prop :=
  ∀ n a, as[n]? = some a → ∀ value ∈ (e.accessAll (as.take n)).slipped? a, value = word

theorem read_version_create (g : Generation) (hangs : Bool) (fault : Option UInt32) :
    (create g hangs fault).read Register.version = g.versionWord := by
  have hregisters : (create g hangs fault).registers =
      RegisterFile.zero.write Register.version g.versionWord := by rw [create]
  rw [Engine.read, hregisters]
  exact RegisterFile.get_set_self _ _ Register.slot_version_lt

/-- **When the version register is read-only.** On an engine of any generation, whether or not it
hangs or faults, the register tells the generation's version at every moment of a run exactly if
nothing else slips into its word on the way. So it does in every run that spares the word. -/
theorem tellsVersion_iff (g : Generation) (hangs : Bool) (fault : Option UInt32)
    (as : List Access) :
    ((create g hangs fault).TellsVersion as g.versionWord ↔
        (create g hangs fault).SlipsOnly as g.versionWord) ∧
      ((∀ a ∈ as, a.SparesVersion) → (create g hangs fault).TellsVersion as g.versionWord) := by
  have hiff : (create g hangs fault).TellsVersion as g.versionWord ↔
      (create g hangs fault).SlipsOnly as g.versionWord :=
    forall_read_version_iff (read_version_create g hangs fault)
  refine ⟨hiff, fun has => hiff.mpr fun n a ha value hvalue => ?_⟩
  have hempty : (create g hangs fault).SparesVersion := fun m hm => absurd hm List.not_mem_nil
  have htaken : ((create g hangs fault).accessAll (as.take n)).SparesVersion :=
    hempty.accessAll fun b hb => has b (List.mem_of_mem_take hb)
  rw [htaken.slipped?_eq_none (has a (List.mem_of_getElem? ha))] at hvalue
  cases hvalue

/-- A run with a write of the version register, a chain that programs a pipe, and a reset. -/
def guardedRun : List Access :=
  [ .set Register.version 7, .upload 0x1000 [0x1000, 7, 0x38, 1],
    .set Register.chainBaseLow 0x1000, .set Register.chainBaseHigh 0, .set Register.chainLength 2,
    .set Register.control startChain, .set Register.control Register.controlReset ]

theorem tellsVersion_guardedRun :
    (∀ a ∈ guardedRun, a.SparesVersion) ∧
      (create .normal false none).TellsVersion guardedRun Generation.normal.versionWord := by
  have hspares : ∀ a ∈ guardedRun, a.SparesVersion := by decide
  exact ⟨hspares, (tellsVersion_iff .normal false none guardedRun).2 hspares⟩

/-- A start on a chain leaves the version register **as the chain writes it**. -/
theorem read_version_write_startChain {bs rest : List CommandBuffer} {first : CommandBuffer}
    {wss : List (List RegisterWrite)} (h : IsLinked wss bs first rest) (e : Engine) :
    ((e.based first rest).write (put Register.control startChain)).1.read Register.version =
      (RegisterFile.lastValue? (replayed (link bs)) (UInt32.ofNat Register.version)).getD
        ((e.based first rest).started startChain |>.read Register.version) := by
  have hstored : ∀ (k : Engine) {register : Nat} (value : UInt32),
      ¬ Register.InVersion (UInt32.ofNat register) →
        (k.store register value).read Register.version = k.read Register.version :=
    fun k _ value hout => (Took.of_store k hout value).read
  have hafter : ((e.based first rest).started startChain |>.afterChain bs).read Register.version =
      (((e.based first rest).started startChain).store Register.chainEnd 0 |>.replayAll
        (replayed (link bs))).read Register.version := rfl
  rw [write_startChain h]
  refine (hstored _ _ (by decide)).trans ?_
  rw [hafter, replayAll_eq]
  refine (RegisterFile.get_apply _ _ Register.slot_version_lt).trans ?_
  exact congrArg _ (hstored _ 0 (by decide))

/-- A chain of one buffer, which writes the version register. -/
def versionChain : List Access :=
  [ .upload 0x1000 [0, 7, 0x38, 1], .set Register.chainBaseLow 0x1000,
    .set Register.chainBaseHigh 0, .set Register.chainLength 2,
    .set Register.control startChain ]

/-- From command memory the version register **is written like any other**. -/
theorem not_tellsVersion_versionChain :
    ((create .normal false none).accessAll versionChain).read Register.version = 7 ∧
      ¬ (create .normal false none).TellsVersion versionChain Generation.normal.versionWord := by
  have hread : ((create .normal false none).accessAll versionChain).read Register.version = 7 := by
    have hlinked : IsLinked [[put Register.version 7]] [⟨0x1000, [0, 7], true⟩]
        ⟨0x1000, [0, 7, 0x38, 1], true⟩ [] :=
      { laid := .cons ⟨rfl, rfl⟩ .nil
        linked := rfl
        outside := by decide
        counted := by decide
        nodup := by decide }
    have hlaunch := accessAll_launch (create .normal false none) ⟨0x1000, [0, 7, 0x38, 1], true⟩ []
    have hslips := read_version_write_startChain hlinked (create .normal false none)
    rw [← hlaunch] at hslips
    exact hslips
  refine ⟨hread, fun htells => ?_⟩
  have hword := htells versionChain.length
  rw [List.take_length, hread] at hword
  exact absurd hword (by decide)

end Engine

end Blitter
