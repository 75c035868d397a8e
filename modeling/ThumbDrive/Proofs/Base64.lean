import ThumbDrive.Proofs.Arguments
import ThumbDrive.Proofs.Paths

/-! # Contents as text

The contents of a file are answered in base64.  A text `Spells` bytes if it is made of the standard
alphabet and its padding, is as long as the bytes ask for, and `decode?` reads the bytes back: four
characters at a time, padded in the last group only, with no bit set that nobody needs.  Groups of
three bytes are spelled one after another, and those that are left over make the two padded endings
(`spells_encode`).

A reader tells null from every text, so the answer of a read `Conveys` what was read. -/
namespace ThumbDrive
namespace Base64

/-- The standard alphabet. -/
def alphabet : List Char :=
  "ABCDEFGHIJKLMNOPQRSTUVWXYZabcdefghijklmnopqrstuvwxyz0123456789+/".toList

/-- The number that characters write, with six bits each. -/
def number? (cs : List Char) : Option Nat :=
  cs.foldlM (fun n c => (alphabet.idxOf? c).map (n * 64 + ·)) 0

/-- The bytes of four characters, of which the last ones may be padding. -/
def group? (a b c d : Char) : Option Bytes :=
  if d = '=' then
    if c = '=' then do
      let n ← number? [a, b]
      if n % 16 = 0 then some [.ofNat (n / 16)] else none
    else do
      let n ← number? [a, b, c]
      if n % 4 = 0 then some [.ofNat (n / 1024), .ofNat (n / 4)] else none
  else do
    let n ← number? [a, b, c, d]
    some [.ofNat (n / 65536), .ofNat (n / 256), .ofNat n]

/-- **The bytes of a text.**  Only its last group is padded. -/
def decode? : List Char → Option Bytes
  | [] => some []
  | a :: b :: c :: d :: rest =>
      if d = '=' ∧ rest ≠ [] then none
      else do return (← group? a b c d) ++ (← decode? rest)
  | _ => none

/-- **A text spells bytes.** -/
structure Spells (b : Bytes) (text : String) : Prop where
  characters : ∃ body, (∀ c ∈ body, c ∈ alphabet) ∧
    text.toList = body ++ List.replicate ((3 - b.length % 3) % 3) '='
  length : text.length = 4 * ((b.length + 2) / 3)
  decodes : decode? text.toList = some b

theorem idxOf?_digit {n : Nat} (h : n < 64) : alphabet.idxOf? (digit n) = some n := by
  have hall : ∀ n < 64, alphabet.idxOf? (digit n) = some n := by decide +kernel
  exact hall n h

theorem digit_mem {n : Nat} (h : n < 64) : digit n ∈ alphabet := by
  have hidx := idxOf?_digit h
  rw [List.idxOf?, List.findIdx?_eq_some_iff_getElem] at hidx
  obtain ⟨hlt, heq, -⟩ := hidx
  rw [← beq_iff_eq.mp heq]
  exact List.getElem_mem hlt

theorem digit_ne_pad {n : Nat} (h : n < 64) : digit n ≠ '=' := by
  intro heq
  have hmem := digit_mem h
  rw [heq] at hmem
  revert hmem
  decide

/-- Digits write the number that they make. -/
theorem number?_digits (ns : List Nat) (h : ∀ n ∈ ns, n < 64) :
    number? (ns.map digit) = some (ns.foldl (· * 64 + ·) 0) := by
  have hfrom : ∀ (ns : List Nat) (start : Nat), (∀ n ∈ ns, n < 64) →
      (ns.map digit).foldlM (fun n c => (alphabet.idxOf? c).map (n * 64 + ·)) start =
        some (ns.foldl (· * 64 + ·) start) := by
    intro ns
    induction ns with
    | nil => exact fun _ _ => rfl
    | cons n ns ih =>
      intro start hns
      rw [List.forall_mem_cons] at hns
      rw [List.map_cons, List.foldlM_cons, idxOf?_digit hns.1]
      exact ih _ hns.2
  exact hfrom ns 0 h

/-! ## Groups -/

/-- The byte of a number is its remainder. -/
theorem ofNat_eq {n : Nat} {a : UInt8} (h : n % 256 = a.toNat) : UInt8.ofNat n = a :=
  UInt8.toNat_inj.mp ((UInt8.toNat_ofNat').trans h)

theorem group?_oneByte (a : UInt8) :
    group? (digit (a.toNat / 4)) (digit (a.toNat % 4 * 16)) '=' '=' = some [a] := by
  have ha := a.toNat_lt
  have hnumber : number? [digit (a.toNat / 4), digit (a.toNat % 4 * 16)] =
      some (a.toNat * 16) := by
    refine (number?_digits [a.toNat / 4, a.toNat % 4 * 16] ?_).trans (congrArg some ?_)
    · simp only [List.forall_mem_cons, List.not_mem_nil, false_implies, implies_true, and_true]
      omega
    · simp only [List.foldl_cons, List.foldl_nil]
      omega
  rw [group?, if_pos rfl, if_pos rfl, hnumber]
  show (if a.toNat * 16 % 16 = 0 then some [UInt8.ofNat (a.toNat * 16 / 16)] else none) = _
  rw [if_pos (by omega), ofNat_eq (a := a) (by omega)]

theorem group?_twoBytes (a b : UInt8) :
    group? (digit (a.toNat / 4)) (digit (a.toNat % 4 * 16 + b.toNat / 16))
      (digit (b.toNat % 16 * 4)) '=' = some [a, b] := by
  have ha := a.toNat_lt
  have hb := b.toNat_lt
  have hnumber : number? [digit (a.toNat / 4), digit (a.toNat % 4 * 16 + b.toNat / 16),
      digit (b.toNat % 16 * 4)] = some (a.toNat * 1024 + b.toNat * 4) := by
    refine (number?_digits [a.toNat / 4, a.toNat % 4 * 16 + b.toNat / 16, b.toNat % 16 * 4]
      ?_).trans (congrArg some ?_)
    · simp only [List.forall_mem_cons, List.not_mem_nil, false_implies, implies_true, and_true]
      omega
    · simp only [List.foldl_cons, List.foldl_nil]
      omega
  rw [group?, if_pos rfl, if_neg (digit_ne_pad (by omega)), hnumber]
  show (if (a.toNat * 1024 + b.toNat * 4) % 4 = 0 then
    some [UInt8.ofNat ((a.toNat * 1024 + b.toNat * 4) / 1024),
      UInt8.ofNat ((a.toNat * 1024 + b.toNat * 4) / 4)] else none) = _
  rw [if_pos (by omega), ofNat_eq (a := a) (by omega), ofNat_eq (a := b) (by omega)]

theorem group?_threeBytes (a b c : UInt8) :
    group? (digit (a.toNat / 4)) (digit (a.toNat % 4 * 16 + b.toNat / 16))
      (digit (b.toNat % 16 * 4 + c.toNat / 64)) (digit (c.toNat % 64)) = some [a, b, c] := by
  have ha := a.toNat_lt
  have hb := b.toNat_lt
  have hc := c.toNat_lt
  have hnumber : number? [digit (a.toNat / 4), digit (a.toNat % 4 * 16 + b.toNat / 16),
      digit (b.toNat % 16 * 4 + c.toNat / 64), digit (c.toNat % 64)] =
      some (a.toNat * 65536 + b.toNat * 256 + c.toNat) := by
    refine (number?_digits [a.toNat / 4, a.toNat % 4 * 16 + b.toNat / 16,
      b.toNat % 16 * 4 + c.toNat / 64, c.toNat % 64] ?_).trans (congrArg some ?_)
    · simp only [List.forall_mem_cons, List.not_mem_nil, false_implies, implies_true, and_true]
      omega
    · simp only [List.foldl_cons, List.foldl_nil]
      omega
  rw [group?, if_neg (digit_ne_pad (by omega)), hnumber]
  show some [UInt8.ofNat ((a.toNat * 65536 + b.toNat * 256 + c.toNat) / 65536),
    UInt8.ofNat ((a.toNat * 65536 + b.toNat * 256 + c.toNat) / 256),
    UInt8.ofNat (a.toNat * 65536 + b.toNat * 256 + c.toNat)] = _
  rw [ofNat_eq (a := a) (by omega), ofNat_eq (a := b) (by omega), ofNat_eq (a := c) (by omega)]

/-! ## Texts -/

theorem encodeAfter_eq (text : String) :
    ∀ b : Bytes, encodeAfter text b = text ++ encode b
  | [] => String.append_empty.symm
  | [a] => congrArg (text ++ ·) String.empty_append.symm
  | [a, b] => congrArg (text ++ ·) String.empty_append.symm
  | a :: b :: c :: rest => by
    unfold encode encodeAfter
    rw [encodeAfter_eq _ rest, encodeAfter_eq _ rest, String.empty_append, String.append_assoc]

theorem encode_threes (a b c : UInt8) (rest : Bytes) :
    encode (a :: b :: c :: rest) = String.ofList (threeBytes a b c) ++ encode rest := by
  unfold encode
  rw [encodeAfter, encodeAfter_eq, String.empty_append]
  rfl

/-- Three more bytes are spelled by four more characters. -/
theorem Spells.threes {rest : Bytes} {text : String} (h : Spells rest text) (a b c : UInt8) :
    Spells (a :: b :: c :: rest) (String.ofList (threeBytes a b c) ++ text) where
  characters := by
    have ha := a.toNat_lt
    have hb := b.toNat_lt
    have hc := c.toNat_lt
    obtain ⟨body, hbody, htext⟩ := h.characters
    refine ⟨threeBytes a b c ++ body, ?_, ?_⟩
    · rw [List.forall_mem_append]
      refine ⟨?_, hbody⟩
      simp only [threeBytes, List.forall_mem_cons]
      refine ⟨digit_mem ?_, digit_mem ?_, digit_mem ?_, digit_mem ?_, nofun⟩ <;> omega
    · have hlength : (a :: b :: c :: rest).length % 3 = rest.length % 3 := by
        simp only [List.length_cons]
        omega
      rw [hlength, String.toList_append, String.toList_ofList, htext, List.append_assoc]
  length := by
    have hfour : (String.ofList (threeBytes a b c)).length = 4 := String.length_ofList
    rw [String.length_append, hfour, h.length]
    simp only [List.length_cons]
    omega
  decodes := by
    rw [String.toList_append, String.toList_ofList]
    show decode? (_ :: _ :: _ :: _ :: text.toList) = _
    rw [decode?, if_neg (fun hpad => digit_ne_pad (by omega) hpad.1), group?_threeBytes, h.decodes]
    rfl

/-- **The text of a byte string spells it.** -/
theorem spells_encode : ∀ b : Bytes, Spells b (encode b)
  | [] => ⟨⟨[], nofun, rfl⟩, rfl, rfl⟩
  | [a] => by
    have ha := a.toNat_lt
    have htext : (encode [a]).toList = oneByte a :=
      (congrArg String.toList String.empty_append).trans String.toList_ofList
    refine ⟨⟨[digit (a.toNat / 4), digit (a.toNat % 4 * 16)], ?_, htext⟩, ?_, ?_⟩
    · simp only [List.forall_mem_cons]
      refine ⟨digit_mem ?_, digit_mem ?_, nofun⟩ <;> omega
    · rw [← String.length_toList, htext]
      simp [oneByte]
    · rw [htext, oneByte, decode?, if_neg (fun hpad => hpad.2 rfl), group?_oneByte]
      rfl
  | [a, b] => by
    have ha := a.toNat_lt
    have hb := b.toNat_lt
    have htext : (encode [a, b]).toList = twoBytes a b :=
      (congrArg String.toList String.empty_append).trans String.toList_ofList
    refine ⟨⟨[digit (a.toNat / 4), digit (a.toNat % 4 * 16 + b.toNat / 16),
      digit (b.toNat % 16 * 4)], ?_, htext⟩, ?_, ?_⟩
    · simp only [List.forall_mem_cons]
      refine ⟨digit_mem ?_, digit_mem ?_, digit_mem ?_, nofun⟩ <;> omega
    · rw [← String.length_toList, htext]
      simp [twoBytes]
    · rw [htext, twoBytes, decode?, if_neg (fun hpad => hpad.2 rfl), group?_twoBytes]
      rfl
  | a :: b :: c :: rest => by
    rw [encode_threes]
    exact (spells_encode rest).threes a b c

/-- **What a value tells about contents**: null says that there are none, and a text spells them. -/
structure Conveys (contents : Option Bytes) (data : Json) : Prop where
  missing : data = .null ↔ contents = none
  spelled : ∀ b, contents = some b → ∃ text, data = .str text ∧ Spells b text

/-- Different contents are told differently. -/
theorem Conveys.inj {contents contents' : Option Bytes} {data : Json} (h : Conveys contents data)
    (h' : Conveys contents' data) : contents = contents' := by
  cases contents with
  | none => exact (h'.missing.mp (h.missing.mpr rfl)).symm
  | some b =>
    cases contents' with
    | none => exact h.missing.mp (h'.missing.mpr rfl)
    | some b' =>
      obtain ⟨text, rfl, hb⟩ := h.spelled b rfl
      obtain ⟨text', htext, hb'⟩ := h'.spelled b' rfl
      cases htext
      exact hb.decodes.symm.trans hb'.decodes

/-- **The answer of a read tells what was read.** -/
theorem conveys_data (contents : Option Bytes) :
    ∃ data, (Answer.data contents).toJson = .obj [("data", data)] ∧ Conveys contents data := by
  refine ⟨_, rfl, ?_⟩
  cases contents with
  | none => exact ⟨⟨fun _ => rfl, fun _ => rfl⟩, nofun⟩
  | some b =>
    refine ⟨⟨nofun, nofun⟩, ?_⟩
    rintro _ ⟨⟩
    exact ⟨encode b, rfl, spells_encode b⟩

end Base64

namespace Service
variable {π : Type} [Host π] [Registry π]

/-- What is in the file at a path, as a session of its own on an opened device finds it. -/
def readFile (path name : String) (medium : Medium) : Except StorageError (Option Bytes) :=
  ((Session.mount name medium).mapError Session.Refusal.error).bind fun session =>
    Session.answer (Session.read path session)

/-- **What a read gives**: what is in the file on the device that the machine has opened, or why no
device was opened. -/
inductive Gets (Past : π → Prop) (v p : UInt16) (path : String) :
    Except StorageError (Option Bytes) → Prop where
  | lost {e : StorageError} (h : Lost Past v p e) : Gets Past v p path (.error e)
  | barred {e : StorageError} (h : Barred Past v p e) : Gets Past v p path (.error e)
  | opened {device : DeviceInfo} {medium : Medium}
      (h : Opens Past v p device (.finished (.ok medium))) :
      Gets Past v p path (readFile path device.deviceName medium)

omit [Host π] [Registry π] in
theorem run_read (path name : String) (medium : Medium) :
    FileTask.run (.read path) name medium = (readFile path name medium).map .data := by
  unfold FileTask.run readFile
  cases Session.mount name medium with
  | error refusal => rfl
  | ok session =>
    dsimp only [FileTask.runIn, Except.mapError, Except.bind]
    cases Session.read path session <;> rfl

/-- A read is answered with what it gives. -/
theorem gets_of_fits {Past : π → Prop} {v p : UInt16} {path : String}
    {r : Except StorageError Answer} (h : Fits Past (.onDevice v p (.files (.read path))) r) :
    ∃ got, Gets Past v p path got ∧ r = got.map .data := by
  cases h with
  | lost _ h => exact ⟨_, .lost h, rfl⟩
  | barred _ h => exact ⟨_, .barred h, rfl⟩
  | served _ h => exact ⟨_, .opened h, run_read path _ _⟩

/-- **A read tells what is in the file.**  It is answered, and its answer is what the read has
given, whatever else happened: a failure is passed on, null says that there is no such file, and any
other data spells the bytes of the file, so that no two contents are told alike. -/
theorem data_tells_contents (s : Service π) {args : Json} {v p : UInt16} {path : String}
    (hargs : Method.NamesPath v p path args) :
    let started := s.start "read" args
    (∃ r, (Schedule.settle (Schedule.rounds started) started).result? s.calls.length = some r) ∧
    (∀ history r,
      (s.afterAll (.start "read" args :: history)).result? s.calls.length = some r →
      ∃ got, Gets (s.machines (.start "read" args :: history)) v p path got ∧
        (∀ e, got = .error e → r = .error e) ∧
        ∀ contents, got = .ok contents → ∃ a data, r = .ok a ∧ a.toJson = .obj [("data", data)] ∧
          Base64.Conveys contents data) ∧
    ∀ contents contents', (Answer.data contents).toJson = (Answer.data contents').toJson →
      contents = contents' := by
  have hm : Method.ofCall "read" args = .ok (.onDevice v p (.files (.read path))) :=
    Method.aboutPath_eq_ok_iff.mpr ⟨v, p, path, hargs, rfl⟩
  refine ⟨answered_settle s hm nofun, ?_, ?_⟩
  · intro history r hr
    obtain ⟨got, hgot, rfl⟩ := gets_of_fits (fits_result s hm history hr)
    refine ⟨got, hgot, ?_, ?_⟩
    · rintro e rfl
      rfl
    · rintro contents rfl
      obtain ⟨data, hdata, hconveys⟩ := Base64.conveys_data contents
      exact ⟨.data contents, data, rfl, hdata, hconveys⟩
  · intro contents contents' h
    obtain ⟨data, hdata, hconveys⟩ := Base64.conveys_data contents
    obtain ⟨data', hdata', hconveys'⟩ := Base64.conveys_data contents'
    have heq : Json.obj [("data", data)] = .obj [("data", data')] :=
      hdata.symm.trans (h.trans hdata')
    cases heq
    exact hconveys.inj hconveys'

/-- A file of two bytes takes three characters and one of padding. -/
theorem data_tells_contents_granted :
    let info : DeviceInfo := ⟨"usb1", none, none, 1, 2⟩
    let bus := (({} : Bus).attach info (.memory (Session.treeDisk []).image)).setGranted "usb1" true
    let s : Service Bus := { desk := { registry := bus, config := .default } }
    let args : Json := .arr [.nat 1, .nat 2, .str "/A"]
    let history : List (Happening Bus) := .start "read" args :: List.replicate 8 (.step 0)
    Method.NamesPath 1 2 "/A" args ∧
      ((s.afterAll history).result? 0).map Except.toOption =
        some (some (.data (some (Bytes.ofAscii "hi")))) ∧
      ∃ contents, Gets (s.machines history) 1 2 "/A" (.ok contents) ∧
        Base64.Conveys contents (.str "aGk=") := by
  intro info bus s args history
  have hargs : Method.NamesPath 1 2 "/A" args := by
    refine ⟨.nat 1, .nat 2, .array rfl, ?_, ?_⟩
    · exact ⟨1, by decide, by decide, rfl, rfl⟩
    · exact ⟨2, by decide, by decide, rfl, rfl⟩
  have hrun : ((s.afterAll history).result? 0).map Except.toOption =
      some (some (.data (some (Bytes.ofAscii "hi")))) := by decide +kernel
  refine ⟨hargs, hrun, ?_⟩
  obtain ⟨r, hr, hok⟩ := Option.map_eq_some_iff.mp hrun
  obtain ⟨got, hgot, herror, hcontents⟩ :=
    (data_tells_contents s hargs).2.1 (List.replicate 8 (.step 0)) r hr
  cases got with
  | error e =>
    rw [herror e rfl] at hok
    cases hok
  | ok contents =>
    obtain ⟨a, data, rfl, hdata, hconveys⟩ := hcontents contents rfl
    cases hok
    cases hdata
    exact ⟨contents, hgot, hconveys⟩

end Service
end ThumbDrive
