import Pardosa.File.Container

/-!
# Scanning a container

`scanContainer` is the pure part of reading a container: it decodes frames in
order, stops at a frame the buffer does not hold completely and calls that a
torn tail, and fails on any other decoding error. The file characterizes its
result by the one way a buffer splits into frames and a rest.
-/

namespace Pardosa

open Foundation

/-- An unfinished last frame: where the valid frames end, and what follows. -/
structure TornTailInfo where
  validLen : Nat
  truncatedBytes : Nat
deriving DecidableEq, Repr

/-- How a scanned container ends. -/
inductive TailState where
  | clean
  | tornTail (info : TornTailInfo)
deriving DecidableEq, Repr

/-- The result of scanning a container. -/
structure ContainerScan where
  header : ContainerHeader
  frames : List Bytes
  rolling : RollingCommitment
  tailState : TailState
  validLen : Nat
deriving DecidableEq, Repr

section Scan

variable [Digests]

/-- The bytes of frames, one after another. -/
def framesBytes (payloads : List Bytes) : Bytes := payloads.flatMap ContainerFrame.frameBytes

/-- A container with the given frames. -/
def containerBytes (payloads : List Bytes) : Bytes :=
  ContainerHeader.new.toBytes ++ framesBytes payloads

/-- The rolling commitment after further frames. -/
def RollingCommitment.absorb (rolling : RollingCommitment) (payloads : List Bytes) :
    RollingCommitment :=
  payloads.foldl (fun rolling payload => rolling.updateFrame (ContainerFrame.frameBytes payload))
    rolling

/-- The frame loop of a scan, from a cursor on. -/
def scanLoop (header : ContainerHeader) (buf : Bytes) (cursor : Nat) (frames : List Bytes)
    (rolling : RollingCommitment) : Except OperationFailure ContainerScan :=
  if _inside : cursor < buf.length then
    match _decoded : ContainerFrame.decode (buf.drop cursor) with
    | .ok (payload, consumed) =>
        scanLoop header buf (cursor + consumed) (frames ++ [payload])
          (rolling.updateFrame ((buf.drop cursor).take consumed))
    | .error (.truncatedPayload _ _) =>
        .ok ⟨header, frames, rolling, .tornTail ⟨cursor, buf.length - cursor⟩, cursor⟩
    | .error failure =>
        .error ⟨.precursorChainBroken none, "invalid container frame at offset " ++
          toString cursor ++ ": " ++ failure.display⟩
  else .ok ⟨header, frames, rolling, .clean, cursor⟩
termination_by buf.length - cursor
decreasing_by
  have consumed_eq := (ContainerFrame.decode_ok_iff.mp _decoded).2.1
  omega

/-- Scans the bytes of a container. -/
def scanContainer (buf : Bytes) : Except OperationFailure ContainerScan :=
  match ContainerHeader.decode buf with
  | .error failure =>
      .error ⟨.precursorChainBroken none, "invalid container header: " ++ failure.display⟩
  | .ok (header, cursor) => scanLoop header buf cursor [] .new

/-- Frames are written one behind the other. -/
theorem framesBytes_cons (payload : Bytes) (payloads : List Bytes) :
    framesBytes (payload :: payloads) =
      ContainerFrame.frameBytes payload ++ framesBytes payloads := by
  rw [framesBytes, List.flatMap_cons]
  rfl

/-- Two lists of frames are written one behind the other. -/
theorem framesBytes_append (first second : List Bytes) :
    framesBytes (first ++ second) = framesBytes first ++ framesBytes second := by
  rw [framesBytes, List.flatMap_append]
  rfl

/-- A single frame is written as it is. -/
@[simp] theorem framesBytes_singleton (payload : Bytes) :
    framesBytes [payload] = ContainerFrame.frameBytes payload := by
  simp [framesBytes]

/-- More frames are written behind the container. -/
theorem containerBytes_append (first second : List Bytes) :
    containerBytes (first ++ second) = containerBytes first ++ framesBytes second := by
  rw [containerBytes, framesBytes_append, ← List.append_assoc]
  rfl

section Loop

variable {header : ContainerHeader} {buf : Bytes} {frames : List Bytes}
  {rolling : RollingCommitment}

/-- A scan walks over encoded frames. -/
theorem scanLoop_frames {payloads : List Bytes}
    (fits : ∀ payload ∈ payloads, payload.length ≤ u32Max)
    (before rest : Bytes) (layout : buf = before ++ (framesBytes payloads ++ rest)) :
    scanLoop header buf before.length frames rolling =
      scanLoop header buf (before ++ framesBytes payloads).length (frames ++ payloads)
        (rolling.absorb payloads) := by
  induction payloads generalizing before frames rolling with
  | nil => simp [framesBytes, RollingCommitment.absorb]
  | cons payload payloads ih =>
      have remaining : buf.drop before.length =
          ContainerFrame.frameBytes payload ++ (framesBytes payloads ++ rest) := by
        rw [layout, List.drop_left, framesBytes_cons, List.append_assoc]
      have decoded : ContainerFrame.decode (buf.drop before.length) =
          .ok (payload, payload.length + 8) :=
        ContainerFrame.decode_ok_iff.mpr
          ⟨fits payload List.mem_cons_self, rfl, _, remaining⟩
      have inside : before.length < buf.length := by
        rw [layout, framesBytes_cons]
        simp only [List.length_append, ContainerFrame.length_frameBytes]
        omega
      have taken : (buf.drop before.length).take (payload.length + 8) =
          ContainerFrame.frameBytes payload := by
        rw [remaining]
        exact List.take_left' (ContainerFrame.length_frameBytes payload)
      have moved : before.length + (payload.length + 8) =
          (before ++ ContainerFrame.frameBytes payload).length := by
        rw [List.length_append, ContainerFrame.length_frameBytes]
      rw [scanLoop, dif_pos inside]
      split
      · rename_i found consumed same
        rw [decoded] at same
        cases same
        rw [taken, moved, ih (fun each member => fits each (List.mem_cons_of_mem _ member))
          (before ++ ContainerFrame.frameBytes payload) (by rw [layout, framesBytes_cons]; simp)]
        congr 1
        · rw [framesBytes_cons, List.append_assoc]
        · simp
      · rename_i same
        rw [decoded] at same
        cases same
      · rename_i same
        rw [decoded] at same
        cases same

/-- A scan stops cleanly at the end of the buffer. -/
theorem scanLoop_end :
    scanLoop header buf buf.length frames rolling =
      .ok ⟨header, frames, rolling, .clean, buf.length⟩ := by
  rw [scanLoop, dif_neg (Nat.lt_irrefl _)]

/-- A scan stops at a frame that overruns the buffer. -/
theorem scanLoop_overrun {before rest : Bytes} (layout : buf = before ++ rest)
    (nonempty : rest ≠ []) (overruns : ContainerFrame.Overruns rest) :
    scanLoop header buf before.length frames rolling =
      .ok ⟨header, frames, rolling, .tornTail ⟨before.length, rest.length⟩, before.length⟩ := by
  subst layout
  obtain ⟨expected, available, refused⟩ := ContainerFrame.decode_truncated_iff.mpr overruns
  have inside : before.length < (before ++ rest).length := by
    rw [List.length_append]
    have := List.length_pos_iff.mpr nonempty
    omega
  rw [scanLoop, dif_pos inside]
  split
  · rename_i same
    rw [List.drop_left, refused] at same
    cases same
  · simp
  · rename_i other same
    rw [List.drop_left, refused] at same
    cases same
    exact (other _ _ rfl).elim

/-- Whatever a scan returns, the buffer splits into the frames it returns and a
rest that is empty or overruns. -/
theorem scanLoop_ok {cursor : Nat} {scan : ContainerScan} (within : cursor ≤ buf.length)
    (scanned : scanLoop header buf cursor frames rolling = .ok scan) :
    ∃ payloads rest, (∀ payload ∈ payloads, payload.length ≤ u32Max) ∧
      buf.drop cursor = framesBytes payloads ++ rest ∧
      scan.header = header ∧ scan.frames = frames ++ payloads ∧
      scan.rolling = rolling.absorb payloads ∧
      scan.validLen = cursor + (framesBytes payloads).length ∧
      ((scan.tailState = .clean ∧ rest = []) ∨
        (scan.tailState = .tornTail ⟨scan.validLen, rest.length⟩ ∧ rest ≠ [] ∧
          ContainerFrame.Overruns rest)) := by
  induction left : buf.length - cursor using Nat.strong_induction_on
    generalizing cursor frames rolling with
  | _ left ih =>
      subst left
      rw [scanLoop] at scanned
      split_ifs at scanned with inside
      · split at scanned
        · rename_i payload consumed decoded
          obtain ⟨fits, rfl, rest, remaining⟩ := ContainerFrame.decode_ok_iff.mp decoded
          have length_eq := congrArg List.length remaining
          rw [List.length_drop, List.length_append, ContainerFrame.length_frameBytes] at length_eq
          have taken : (buf.drop cursor).take (payload.length + 8) =
              ContainerFrame.frameBytes payload := by
            rw [remaining]
            exact List.take_left' (ContainerFrame.length_frameBytes payload)
          obtain ⟨payloads, tail, bounds, split, header_eq, frames_eq, rolling_eq, valid, ends⟩ :=
            ih _ (by omega) (by omega) scanned rfl
          refine ⟨payload :: payloads, tail, ?_, ?_, header_eq, ?_, ?_, ?_, ends⟩
          · intro each member
            rcases List.mem_cons.mp member with rfl | later
            · exact fits
            · exact bounds each later
          · rw [← List.drop_drop, remaining,
              List.drop_left' (ContainerFrame.length_frameBytes payload)] at split
            rw [remaining, split, framesBytes_cons, List.append_assoc]
          · rw [frames_eq, List.append_assoc]
            rfl
          · rw [rolling_eq, taken]
            rfl
          · rw [valid, framesBytes_cons, List.length_append, ContainerFrame.length_frameBytes]
            omega
        · rename_i refused
          cases scanned
          refine ⟨[], buf.drop cursor, by simp, by simp [framesBytes], rfl, by simp, rfl,
            by simp [framesBytes], Or.inr ⟨by simp, ?_, ?_⟩⟩
          · intro none
            have := congrArg List.length none
            simp at this
            omega
          · exact ContainerFrame.decode_truncated_iff.mp ⟨_, _, refused⟩
        · cases scanned
      · cases scanned
        refine ⟨[], [], by simp, ?_, rfl, by simp, rfl, by simp [framesBytes], Or.inl ⟨rfl, rfl⟩⟩
        simp only [framesBytes, List.flatMap_nil, List.append_nil]
        exact List.drop_eq_nil_of_le (by omega)

end Loop

/-- A buffer that ends inside a frame: header and frames, then a rest that its
own length prefix overruns. -/
def EndsTorn (buf : Bytes) : Prop :=
  ∃ payloads rest, (∀ payload ∈ payloads, payload.length ≤ u32Max) ∧
    buf = containerBytes payloads ++ rest ∧ rest ≠ [] ∧ ContainerFrame.Overruns rest

/-- Scanning a complete container. -/
theorem scanContainer_clean {payloads : List Bytes}
    (fits : ∀ payload ∈ payloads, payload.length ≤ u32Max) :
    scanContainer (containerBytes payloads) =
      .ok ⟨.new, payloads, RollingCommitment.new.absorb payloads, .clean,
        (containerBytes payloads).length⟩ := by
  have header : ContainerHeader.decode (containerBytes payloads) = .ok (.new, 12) :=
    ContainerHeader.decode_ok_iff.mpr ⟨rfl, rfl, _, rfl⟩
  have walked : scanLoop .new (containerBytes payloads) ContainerHeader.new.toBytes.length [] .new =
      scanLoop .new (containerBytes payloads) (containerBytes payloads).length ([] ++ payloads)
        (RollingCommitment.new.absorb payloads) :=
    scanLoop_frames fits _ [] (by simp [containerBytes])
  rw [ContainerHeader.length_toBytes] at walked
  simp only [scanContainer, header]
  rw [walked, List.nil_append]
  exact scanLoop_end

/-- Scanning a container with an unfinished frame behind it. -/
theorem scanContainer_torn {payloads : List Bytes} {rest : Bytes}
    (fits : ∀ payload ∈ payloads, payload.length ≤ u32Max) (nonempty : rest ≠ [])
    (overruns : ContainerFrame.Overruns rest) :
    scanContainer (containerBytes payloads ++ rest) =
      .ok ⟨.new, payloads, RollingCommitment.new.absorb payloads,
        .tornTail ⟨(containerBytes payloads).length, rest.length⟩,
        (containerBytes payloads).length⟩ := by
  have header : ContainerHeader.decode (containerBytes payloads ++ rest) = .ok (.new, 12) :=
    ContainerHeader.decode_ok_iff.mpr
      ⟨rfl, rfl, framesBytes payloads ++ rest, by simp [containerBytes]⟩
  have walked : scanLoop .new (containerBytes payloads ++ rest)
        ContainerHeader.new.toBytes.length [] .new =
      scanLoop .new (containerBytes payloads ++ rest) (containerBytes payloads).length
        ([] ++ payloads) (RollingCommitment.new.absorb payloads) :=
    scanLoop_frames fits _ rest (by simp [containerBytes])
  rw [ContainerHeader.length_toBytes] at walked
  simp only [scanContainer, header]
  rw [walked, List.nil_append]
  exact scanLoop_overrun rfl nonempty overruns

/-- Whatever a scan returns, it is the frames of a container followed by nothing
or by an overrunning rest. -/
theorem scanContainer_ok {buf : Bytes} {scan : ContainerScan}
    (scanned : scanContainer buf = .ok scan) :
    ∃ payloads rest, (∀ payload ∈ payloads, payload.length ≤ u32Max) ∧
      buf = containerBytes payloads ++ rest ∧ scan.frames = payloads ∧
      scan.validLen = (containerBytes payloads).length ∧
      ((scan.tailState = .clean ∧ rest = []) ∨
        (scan.tailState = .tornTail ⟨scan.validLen, rest.length⟩ ∧ rest ≠ [] ∧
          ContainerFrame.Overruns rest)) := by
  unfold scanContainer at scanned
  split at scanned
  · cases scanned
  rename_i header cursor decoded
  obtain ⟨rfl, rfl, tail, rfl⟩ := ContainerHeader.decode_ok_iff.mp decoded
  obtain ⟨payloads, rest, fits, split, -, frames_eq, -, valid, ends⟩ :=
    scanLoop_ok (by simp) scanned
  rw [List.drop_left' (ContainerHeader.length_toBytes _)] at split
  refine ⟨payloads, rest, fits, ?_, by simpa using frames_eq, ?_, ends⟩
  · rw [split, containerBytes, List.append_assoc]
  · rw [valid, containerBytes, List.length_append, ContainerHeader.length_toBytes]

/-- Every non-empty proper beginning of a frame overruns itself. -/
theorem overruns_of_partial_frame {payload : Bytes} {part rest : Bytes}
    (fits : payload.length ≤ u32Max) (split : ContainerFrame.frameBytes payload = part ++ rest)
    (unfinished : rest ≠ []) : ContainerFrame.Overruns part := by
  have total := congrArg List.length split
  rw [ContainerFrame.length_frameBytes, List.length_append] at total
  have left := List.length_pos_iff.mpr unfinished
  by_cases short : part.length < 4
  · exact Or.inl short
  · refine Or.inr ?_
    have lengthField : part.take 4 = leBytes 4 payload.length := by
      have whole := congrArg (List.take 4) split
      rw [ContainerFrame.frameBytes, List.take_left' (length_leBytes 4 _),
        List.take_append_of_le_length (by omega)] at whole
      exact whole.symm
    rw [lengthField, leValue_leBytes_of_lt (by unfold u32Max at fits; omega)]
    omega

/-- The encodings of payloads, one after another. -/
def encodePayloads (payloads : List Bytes) : Except EncodeError Bytes :=
  (payloads.mapM ContainerFrame.encodePayload).map List.flatten

/-- Payloads are encoded as their frames, if each of them fits one. -/
theorem encodePayloads_eq {payloads : List Bytes}
    (fits : ∀ payload ∈ payloads, payload.length ≤ u32Max) :
    encodePayloads payloads = .ok (framesBytes payloads) := by
  unfold encodePayloads
  have each : payloads.mapM ContainerFrame.encodePayload =
      .ok (payloads.map ContainerFrame.frameBytes) := by
    induction payloads with
    | nil => rfl
    | cons payload payloads ih =>
        have first : ContainerFrame.encodePayload payload =
          .ok (ContainerFrame.frameBytes payload) :=
          if_pos (fits payload List.mem_cons_self)
        have rest := ih fun other member => fits other (List.mem_cons_of_mem _ member)
        rw [List.mapM_cons, first, ok_bind, rest]
        rfl
  rw [each]
  simp only [Except.map, framesBytes, List.flatMap_def]

/-- The container scan is exact: it reads complete frames as they were encoded, it cuts a
torn frame off at its start, and a clean scan is of encoded frames only. -/
theorem container_scan_exact :
    (∀ payloads : List Bytes, (∀ payload ∈ payloads, payload.length ≤ u32Max) →
      ∃ body, encodePayloads payloads = .ok body ∧
        ∃ scan, scanContainer (ContainerHeader.new.toBytes ++ body) = .ok scan ∧
          scan.frames = payloads ∧ scan.tailState = .clean ∧
          scan.validLen = (ContainerHeader.new.toBytes ++ body).length ∧
          ∀ (payload part missing : Bytes),
            ContainerFrame.encodePayload payload = .ok (part ++ missing) →
            part ≠ [] → missing ≠ [] →
            ∃ torn, scanContainer (ContainerHeader.new.toBytes ++ body ++ part) = .ok torn ∧
              torn.frames = payloads ∧
              torn.tailState = .tornTail
                ⟨(ContainerHeader.new.toBytes ++ body).length, part.length⟩ ∧
              torn.validLen = (ContainerHeader.new.toBytes ++ body).length ∧
              scanContainer ((ContainerHeader.new.toBytes ++ body ++ part).take torn.validLen) =
                .ok scan) ∧
    ∀ (buf : Bytes) (scan : ContainerScan), scanContainer buf = .ok scan →
      scan.tailState = .clean →
      ∃ body, encodePayloads scan.frames = .ok body ∧
        buf = ContainerHeader.new.toBytes ++ body := by
  refine ⟨fun payloads fits => ?_, fun buf scan scanned clean => ?_⟩
  · refine ⟨_, encodePayloads_eq fits, _, scanContainer_clean fits, rfl, rfl, rfl, ?_⟩
    intro payload part missing encoded begun unfinished
    unfold ContainerFrame.encodePayload ContainerFrame.tryEncodePayload at encoded
    split_ifs at encoded with payloadFits
    have overruns := overruns_of_partial_frame payloadFits (Except.ok.inj encoded) unfinished
    refine ⟨_, scanContainer_torn fits begun overruns, rfl, rfl, rfl, ?_⟩
    rw [← scanContainer_clean fits]
    exact congrArg scanContainer (List.take_left' rfl)
  · obtain ⟨payloads, rest, fits, split, rfl, -, ends⟩ := scanContainer_ok scanned
    rcases ends with ⟨-, rfl⟩ | ⟨torn, -⟩
    · exact ⟨_, encodePayloads_eq fits, by rw [split, List.append_nil]; rfl⟩
    · rw [clean] at torn
      cases torn

end Scan

section Example

attribute [local instance] standardDigests

/-- Two frames and the length prefix of a third, cut off. -/
theorem container_scan_exact_cut : ∃ body, encodePayloads [[1], []] = .ok body ∧
    ∃ torn, scanContainer (ContainerHeader.new.toBytes ++ body ++ [2, 0, 0]) = .ok torn ∧
      torn.frames = [[1], []] ∧ torn.tailState = .tornTail ⟨29, 3⟩ := by
  obtain ⟨body, encoded, scan, -, -, -, -, cut⟩ :=
    container_scan_exact.1 [[1], []] (by decide)
  have begun : ContainerFrame.encodePayload [7, 7] =
      .ok ([2, 0, 0] ++ (ContainerFrame.frameBytes [7, 7]).drop 3) := rfl
  obtain ⟨torn, scanned, frames, tail, -, -⟩ := cut [7, 7] [2, 0, 0] _ begun (by decide) (by decide)
  have length : (ContainerHeader.new.toBytes ++ body).length = 29 := by
    rw [encodePayloads_eq (by decide)] at encoded
    cases encoded
    simp only [List.length_append, ContainerHeader.length_toBytes, framesBytes, List.flatMap_cons,
      ContainerFrame.length_frameBytes, List.length_cons, List.flatMap_nil, List.length_nil]
  rw [length] at tail
  exact ⟨body, encoded, torn, scanned, frames, tail⟩

end Example

end Pardosa
