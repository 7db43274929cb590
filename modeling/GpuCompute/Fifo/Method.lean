import GpuCompute.Lib.Word

/-!
# Method headers

A push buffer is a stream of commands: a header word and `count` payload words.  The documented
layout of a header has the method in bits `[12:0]` and the count in `[28:16]`; the encoders put the
subchannel in between, in `[15:13]`.  The opcode is documented in bits `[28:29]`, of which bit 28 is
also the top bit of the count.  With the count at its documented width only the bits above it are
left to tell the kinds apart, and these are read as the opcode here.

`gpuMethodIncr` puts its opcode `1` at bit 28, which is the top bit of the count.  A walk of the
stream therefore reads the count of an incrementing command with that bit set
(`Command.decodeHeader_header`): the stream is decodable exactly when every incrementing command is
so long that it has the bit anyway (`decodable_iff`).

* `gpuMethodNonincr`, `gpuMethodIncr`, `gpuMethod1` : the encoders.
* `decodeHeader`, `walk` : the documented layout, read back.
* `Command` : the commands the layout can express.
* `Decodable` : walking the encoded stream gives the commands back.
-/

namespace GpuCompute

open Systems

/-! ### The encoders -/

/-- A header with the given opcode at bit 28. -/
def gpuMethod (opcode subchannel method count : UInt32) : UInt32 :=
  (opcode <<< 28) ||| ((count &&& 0x1FFF) <<< 16) ||| ((subchannel &&& 0x7) <<< 13) |||
    (method >>> 2)

/-- Header of a non-incrementing command. -/
def gpuMethodNonincr (subchannel method count : UInt32) : UInt32 :=
  gpuMethod 0x2 subchannel method count

/-- Header of an incrementing command: each data word goes to the next method. -/
def gpuMethodIncr (subchannel method count : UInt32) : UInt32 :=
  gpuMethod 0x1 subchannel method count

/-- Header of a command with one data word. -/
def gpuMethod1 (subchannel method : UInt32) : UInt32 := gpuMethodIncr subchannel method 1

/-! ### The documented layout -/

/-- The two kinds of commands. -/
inductive MethodKind where
  | incr
  | nonincr
  deriving DecidableEq

/-- The fields of a header. -/
structure Header where
  kind : MethodKind
  subchannel : UInt32
  method : UInt32
  count : UInt32
  deriving DecidableEq

/-- A command of the stream. -/
structure Method where
  kind : MethodKind
  subchannel : UInt32
  method : UInt32
  payload : List UInt32
  deriving DecidableEq

/-- The kind, by the bits above the count: the encoders leave `0` there for incrementing commands
and `1` for non-incrementing ones.  Bit 28, which the documented opcode shares with the count, is
left to the count. -/
def decodeKind (opcode : UInt32) : Option MethodKind :=
  if opcode = 0 then some .incr else if opcode = 1 then some .nonincr else none

/-- Read a header in the documented layout. -/
def decodeHeader (w : UInt32) : Option Header :=
  (decodeKind (w >>> 29)).map fun kind =>
    { kind, subchannel := (w >>> 13) &&& 0x7, method := (w &&& 0x1FFF) <<< 2,
      count := (w >>> 16) &&& 0x1FFF }

/-- Read at most `fuel` commands: a header, then as many words as it counts. -/
def walkFuel : ℕ → List UInt32 → Option (List Method)
  | _, [] => some []
  | 0, _ :: _ => none
  | fuel + 1, w :: ws =>
    match decodeHeader w with
    | none => none
    | some h =>
      if h.count.toNat ≤ ws.length then
        (walkFuel fuel (ws.drop h.count.toNat)).map fun rest =>
          ⟨h.kind, h.subchannel, h.method, ws.take h.count.toNat⟩ :: rest
      else none

/-- Walk a stream to its end. -/
def walk (ws : List UInt32) : Option (List Method) := walkFuel ws.length ws

/-! ### Commands -/

/-- The commands the layout can express. -/
structure Command extends Method where
  subchannel_lt : subchannel < 8
  method_lt : method < 0x8000
  method_dvd : 4 ∣ method.toNat
  payload_pos : 0 < payload.length
  payload_le : payload.length ≤ 0x1FFF

namespace Command

/-- The header the encoder of the command's kind builds. -/
def header (c : Command) : UInt32 :=
  match c.kind with
  | .incr => gpuMethodIncr c.subchannel c.method (UInt32.ofNat c.payload.length)
  | .nonincr => gpuMethodNonincr c.subchannel c.method (UInt32.ofNat c.payload.length)

/-- The words of a command. -/
def words (c : Command) : List UInt32 := c.header :: c.payload

end Command

/-- The words of a sequence of commands. -/
def stream (cmds : List Command) : List UInt32 := cmds.flatMap Command.words

/-- The stream of the commands can be read back: as a whole, header by header, and no two
commands with different fields share a header. -/
structure Decodable (cmds : List Command) : Prop where
  /-- Walking the stream gives the commands. -/
  stream : walk (stream cmds) = some (cmds.map Command.toMethod)
  /-- Every header gives the fields it was built from. -/
  fields : ∀ c ∈ cmds, decodeHeader c.header =
    some ⟨c.kind, c.subchannel, c.method, UInt32.ofNat c.payload.length⟩
  /-- Equal headers come from equal fields, the kind included. -/
  injective : ∀ c ∈ cmds, ∀ d ∈ cmds, c.header = d.header →
    c.kind = d.kind ∧ c.subchannel = d.subchannel ∧ c.method = d.method ∧
      c.payload.length = d.payload.length

/-! ### What a header reads back as -/

theorem toNat_gpuMethod {opcode subchannel method count : UInt32} (ho : opcode.toNat < 4)
    (hs : subchannel < 8) (hm : method < 0x8000) (hc : count < 0x2000) :
    (gpuMethod opcode subchannel method count).toNat =
      (opcode.toNat <<< 12 ||| count.toNat) * 2 ^ 16 +
        (subchannel.toNat * 2 ^ 13 + method.toNat / 4) := by
  simp only [UInt32.lt_iff_toNat_lt, UInt32.reduceToNat] at hs hm hc
  have hcount : count.toNat &&& 0x1FFF = count.toNat :=
    Nat.and_two_pow_sub_one_of_lt_two_pow (n := 13) hc
  have hsub : subchannel.toNat &&& 0x7 = subchannel.toNat :=
    Nat.and_two_pow_sub_one_of_lt_two_pow (n := 3) hs
  have hlow : subchannel.toNat <<< 13 ||| method.toNat / 4 =
      subchannel.toNat * 2 ^ 13 + method.toNat / 4 := shiftLeft_or_eq_add (by omega) _
  simp only [gpuMethod, UInt32.toNat_or, UInt32.toNat_shiftLeft, UInt32.toNat_and,
    UInt32.toNat_shiftRight, UInt32.toNat_ofNat, Nat.reducePow, Nat.reduceMod, hcount, hsub,
    Nat.shiftRight_eq_div_pow]
  have hop : opcode.toNat <<< 28 % 4294967296 = opcode.toNat <<< 12 <<< 16 := by
    rw [← Nat.shiftLeft_add, Nat.shiftLeft_eq, Nat.mod_eq_of_lt (by omega)]
  have hc16 : count.toNat <<< 16 % 4294967296 = count.toNat <<< 16 :=
    shiftLeft_mod_of_lt (w := 32) (by omega)
  have hs13 : subchannel.toNat <<< 13 % 4294967296 = subchannel.toNat <<< 13 :=
    shiftLeft_mod_of_lt (w := 32) (by omega)
  rw [hop, hc16, hs13, ← Nat.shiftLeft_or_distrib, Nat.or_assoc, hlow,
    shiftLeft_or_eq_add (by omega)]
  simp only [Nat.reducePow]

theorem readMethod_eq {w subchannel method : UInt32} {top : ℕ}
    (hw : w.toNat = top * 2 ^ 16 + (subchannel.toNat * 2 ^ 13 + method.toNat / 4))
    (hm : method < 0x8000) (hdvd : 4 ∣ method.toNat) : (w &&& 0x1FFF) <<< 2 = method := by
  simp only [UInt32.lt_iff_toNat_lt, UInt32.reduceToNat] at hm
  apply UInt32.toNat_inj.1
  rw [UInt32.toNat_shiftLeft, UInt32.toNat_and, Nat.shiftLeft_eq, hw]
  simp only [UInt32.toNat_ofNat, Nat.reducePow, Nat.reduceMod]
  rw [Nat.and_two_pow_sub_one_eq_mod _ 13]
  omega

theorem readMethod_gpuMethod1 (subchannel : UInt32) {method : UInt32} (hm : method < 0x8000)
    (hdvd : 4 ∣ method.toNat) : (gpuMethod1 subchannel method &&& 0x1FFF) <<< 2 = method := by
  have hmask : gpuMethod1 subchannel method = gpuMethod 0x1 (subchannel &&& 0x7) method 1 := by
    simp only [gpuMethod1, gpuMethodIncr, gpuMethod, UInt32.and_assoc, UInt32.and_self]
  have hlt : subchannel &&& 0x7 < 8 := by
    rw [UInt32.lt_iff_toNat_lt, UInt32.toNat_and]
    exact lt_of_le_of_lt Nat.and_le_right (by decide)
  rw [hmask]
  exact readMethod_eq (toNat_gpuMethod (by decide) hlt hm (by decide)) hm hdvd

/-- Reading back a word packed from a top part, a subchannel and a method: the count is the low
13 bits of the top part, the opcode the rest. -/
theorem decodeHeader_eq {w subchannel method count : UInt32} {top : ℕ} {kind : MethodKind}
    (hw : w.toNat = top * 2 ^ 16 + (subchannel.toNat * 2 ^ 13 + method.toNat / 4))
    (hs : subchannel < 8) (hm : method < 0x8000) (hdvd : 4 ∣ method.toNat)
    (hcount : count.toNat = top % 2 ^ 13)
    (hkind : decodeKind (UInt32.ofNat (top / 2 ^ 13)) = some kind) :
    decodeHeader w = some ⟨kind, subchannel, method, count⟩ := by
  have hmethod : (w &&& 0x1FFF) <<< 2 = method := readMethod_eq hw hm hdvd
  simp only [UInt32.lt_iff_toNat_lt, UInt32.reduceToNat] at hs hm
  have hop : w >>> 29 = UInt32.ofNat (top / 2 ^ 13) := by
    apply UInt32.toNat_inj.1
    have := w.toNat_lt
    rw [UInt32.toNat_shiftRight, UInt32.toNat_ofNat', Nat.shiftRight_eq_div_pow, hw]
    simp only [UInt32.toNat_ofNat, Nat.reducePow, Nat.reduceMod]
    omega
  have hsub : (w >>> 13) &&& 0x7 = subchannel := by
    apply UInt32.toNat_inj.1
    rw [UInt32.toNat_and, UInt32.toNat_shiftRight, Nat.shiftRight_eq_div_pow, hw]
    simp only [UInt32.toNat_ofNat, Nat.reducePow, Nat.reduceMod]
    rw [Nat.and_two_pow_sub_one_eq_mod _ 3]
    omega
  have hcnt : (w >>> 16) &&& 0x1FFF = count := by
    apply UInt32.toNat_inj.1
    rw [UInt32.toNat_and, UInt32.toNat_shiftRight, Nat.shiftRight_eq_div_pow, hw, hcount]
    simp only [UInt32.toNat_ofNat, Nat.reducePow, Nat.reduceMod]
    rw [Nat.and_two_pow_sub_one_eq_mod _ 13]
    omega
  rw [decodeHeader, hop, hkind, hsub, hmethod, hcnt]
  rfl

theorem or_bit12 {c : ℕ} (hc : c < 8192) : 1 <<< 12 ||| c = 4096 + c % 4096 := by
  have hlow : ∀ r < 4096, 1 <<< 12 ||| r = 4096 + r := by
    intro r hr
    rw [shiftLeft_or_eq_add (i := 12) hr]
    omega
  by_cases h : c < 4096
  · rw [hlow c h, Nat.mod_eq_of_lt h]
  · have hself : c = 1 <<< 12 ||| c % 4096 := by
      rw [hlow _ (Nat.mod_lt _ (by decide))]
      omega
    rw [hself, ← Nat.or_assoc, Nat.or_self, hlow _ (Nat.mod_lt _ (by decide))]
    omega

namespace Command

/-- The count a walk reads in the header of a command. -/
def readCount (c : Command) : ℕ :=
  match c.kind with
  | .incr => 4096 + c.payload.length % 4096
  | .nonincr => c.payload.length

/-- The command is long enough that its count has the bit the opcode is put at. -/
def CountHasOpcodeBit (c : Command) : Prop := c.kind = .incr → 0x1000 ≤ c.payload.length

theorem readCount_lt (c : Command) : c.readCount < 8192 := by
  have := c.payload_le
  unfold readCount
  split <;> omega

theorem readCount_eq_iff (c : Command) :
    c.readCount = c.payload.length ↔ c.CountHasOpcodeBit := by
  have := c.payload_le
  unfold readCount CountHasOpcodeBit
  split
  case h_1 hk => simp only [hk, true_imp_iff]; omega
  case h_2 hk => simp [hk]

theorem payload_length_toNat (c : Command) :
    (UInt32.ofNat c.payload.length).toNat = c.payload.length := by
  have := c.payload_le
  rw [UInt32.toNat_ofNat', Nat.mod_eq_of_lt (by omega)]

theorem decodeHeader_header (c : Command) :
    decodeHeader c.header =
      some ⟨c.kind, c.subchannel, c.method, UInt32.ofNat c.readCount⟩ := by
  have hlen := c.payload_le
  have hnat := c.payload_length_toNat
  have hcount : UInt32.ofNat c.payload.length < 0x2000 := by
    rw [UInt32.lt_iff_toNat_lt, hnat]; exact Nat.lt_succ_of_le hlen
  have hread : (UInt32.ofNat c.readCount).toNat = c.readCount := by
    have := c.readCount_lt
    rw [UInt32.toNat_ofNat', Nat.mod_eq_of_lt (by omega)]
  cases hk : c.kind with
  | incr =>
    -- the opcode `1` sets bit 12 of the count and leaves the opcode field empty
    have hor := or_bit12 (c := c.payload.length) (by omega)
    have hop : (0x1 : UInt32).toNat < 4 := by decide
    have hw := toNat_gpuMethod hop c.subchannel_lt c.method_lt hcount
    rw [hnat, show (0x1 : UInt32).toNat = 1 from rfl, hor] at hw
    simp only [header, hk, gpuMethodIncr]
    refine decodeHeader_eq hw c.subchannel_lt c.method_lt c.method_dvd ?_ ?_
    · rw [hread, readCount, hk]; simp only; omega
    · rw [Nat.div_eq_of_lt (by omega)]; rfl
  | nonincr =>
    -- the opcode `2` is bit 13, the first one above the count
    have hor : 2 <<< 12 ||| c.payload.length = 1 * 2 ^ 13 + c.payload.length :=
      shiftLeft_or_eq_add (i := 13) (by omega) 1
    have hop : (0x2 : UInt32).toNat < 4 := by decide
    have hw := toNat_gpuMethod hop c.subchannel_lt c.method_lt hcount
    rw [hnat, show (0x2 : UInt32).toNat = 2 from rfl, hor] at hw
    simp only [header, hk, gpuMethodNonincr]
    refine decodeHeader_eq hw c.subchannel_lt c.method_lt c.method_dvd ?_ ?_
    · rw [hread, readCount, hk]; simp only; omega
    · rw [show (1 * 2 ^ 13 + c.payload.length) / 2 ^ 13 = 1 by omega]; rfl

theorem walkFuel_words (c : Command) (fuel : ℕ) (rest : List UInt32) :
    walkFuel (fuel + 1) (c.words ++ rest) =
      if c.readCount ≤ (c.payload ++ rest).length then
        (walkFuel fuel ((c.payload ++ rest).drop c.readCount)).map fun ms =>
          ⟨c.kind, c.subchannel, c.method, (c.payload ++ rest).take c.readCount⟩ :: ms
      else none := by
  have hread : (UInt32.ofNat c.readCount).toNat = c.readCount := by
    have := c.readCount_lt
    rw [UInt32.toNat_ofNat', Nat.mod_eq_of_lt (by omega)]
  simp only [words, List.cons_append, walkFuel, c.decodeHeader_header, hread]

end Command

/-! ### When the stream can be read back -/

theorem walkFuel_stream {cmds : List Command} (h : ∀ c ∈ cmds, c.CountHasOpcodeBit) {fuel : ℕ}
    (hfuel : cmds.length ≤ fuel) :
    walkFuel fuel (stream cmds) = some (cmds.map Command.toMethod) := by
  induction cmds generalizing fuel with
  | nil => cases fuel <;> rfl
  | cons c cmds ih =>
    obtain ⟨fuel, rfl⟩ : ∃ n, fuel = n + 1 := ⟨fuel - 1, by simp at hfuel; omega⟩
    have hread := c.readCount_eq_iff.2 (h c List.mem_cons_self)
    have hle : cmds.length ≤ fuel := by simpa using hfuel
    have hrest := ih (fun d hd => h d (List.mem_cons_of_mem _ hd)) hle
    rw [stream, List.flatMap_cons, c.walkFuel_words, hread, if_pos (by simp),
      List.drop_left, List.take_left]
    change Option.map _ (walkFuel fuel (stream cmds)) = _
    rw [hrest]
    rfl

theorem countHasOpcodeBit_of_walkFuel {cmds : List Command} {fuel : ℕ}
    (h : walkFuel fuel (stream cmds) = some (cmds.map Command.toMethod)) :
    ∀ c ∈ cmds, c.CountHasOpcodeBit := by
  induction cmds generalizing fuel with
  | nil => simp
  | cons c cmds ih =>
    cases fuel with
    | zero => cases h
    | succ fuel =>
      rw [stream, List.flatMap_cons, c.walkFuel_words] at h
      split_ifs at h with hle
      obtain ⟨ms, hms, hcons⟩ := Option.map_eq_some_iff.1 h
      rw [List.map_cons, List.cons.injEq] at hcons
      obtain ⟨hhead, rfl⟩ := hcons
      have hlen := congrArg (List.length ∘ Method.payload) hhead
      simp only [Function.comp_apply, List.length_take, Nat.min_eq_left hle] at hlen
      rw [hlen, List.drop_left] at hms
      exact List.forall_mem_cons.2 ⟨c.readCount_eq_iff.1 hlen, ih hms⟩

theorem length_le_length_stream (cmds : List Command) : cmds.length ≤ (stream cmds).length := by
  induction cmds with
  | nil => exact le_rfl
  | cons c cmds ih =>
    rw [stream, List.flatMap_cons, List.length_append, List.length_cons]
    change _ ≤ _ + (stream cmds).length
    simp only [Command.words, List.length_cons]
    omega

/-- **A command stream can be read back exactly when every incrementing command has at least
`0x1000` payload words**, so that its count has the bit the opcode is put at. -/
theorem decodable_iff (cmds : List Command) :
    Decodable cmds ↔ ∀ c ∈ cmds, c.kind = .incr → 0x1000 ≤ c.payload.length := by
  constructor
  · intro h
    exact countHasOpcodeBit_of_walkFuel h.stream
  · intro h
    have hfields : ∀ c ∈ cmds, decodeHeader c.header =
        some ⟨c.kind, c.subchannel, c.method, UInt32.ofNat c.payload.length⟩ := by
      intro c hc
      rw [c.decodeHeader_header, c.readCount_eq_iff.2 (h c hc)]
    refine ⟨walkFuel_stream h (length_le_length_stream cmds), hfields, ?_⟩
    intro c hc d hd heq
    have hboth := hfields c hc
    rw [heq, hfields d hd] at hboth
    simp only [Option.some.injEq, Header.mk.injEq] at hboth
    obtain ⟨hkind, hsub, hmethod, hcount⟩ := hboth
    have hlen := congrArg UInt32.toNat hcount
    rw [c.payload_length_toNat, d.payload_length_toNat] at hlen
    exact ⟨hkind.symm, hsub.symm, hmethod.symm, hlen.symm⟩

/-- One incrementing command with one payload word: its count reads as `0x1001`. -/
theorem not_decodable_single_word :
    ¬ Decodable [⟨⟨.incr, 0, 0x2074, [1]⟩, by decide, by decide, by decide, by decide,
      by decide⟩] := by
  intro h
  exact absurd h.stream (by decide)

end GpuCompute
