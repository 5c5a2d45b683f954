import Mathlib.Data.List.Basic
import Mathlib.Data.List.TakeWhile
import Mathlib.Logic.Function.Iterate
import Mathlib.Tactic.Common

/-!
# `rc4_crypt`

The program that writes a text in hexadecimal, encrypted with a password (operation `C`), and reads
it back (operation `D`). MD5 and RC4 are those of `libcrypto`, of which only `Libcrypto.Xors` is
known: RC4 combines the data with a stream of bytes that depends on the key. **`D` prints what `C`
was given for the texts of up to 1024 bytes only**, `inverts_iff`: the limit of 2048 bytes is on the
argument, which is twice as long for `D`.
-/

namespace Spooler.Rc4Crypt

/-- The contents of a C string, or what a stream is given. -/
abbrev Bytes := List UInt8

/-- A text of the source. -/
def bytes (s : String) : Bytes := s.toList.map fun c => UInt8.ofNat c.toNat

/-! ## Hexadecimal digits -/

/-- `ascii2bits(byte)`. -/
def ascii2bits (byte : UInt8) : UInt8 :=
  match Char.ofNat byte.toNat with
  | '0' => 0x00
  | '1' => 0x01
  | '2' => 0x02
  | '3' => 0x03
  | '4' => 0x04
  | '5' => 0x05
  | '6' => 0x06
  | '7' => 0x07
  | '8' => 0x08
  | '9' => 0x09
  | 'A' | 'a' => 0x0a
  | 'B' | 'b' => 0x0b
  | 'C' | 'c' => 0x0c
  | 'D' | 'd' => 0x0d
  | 'E' | 'e' => 0x0e
  | 'F' | 'f' => 0x0f
  | _ => 0x00

/-- `hex2bin(val)`. -/
def hex2bin (val₀ val₁ : UInt8) : UInt8 :=
  let hi := ascii2bits val₀
  let lo := ascii2bits val₁
  ((hi <<< 4) &&& 0xF0) ||| (lo &&& 0x0F)

/-- A digit of `%02X`. -/
def hexDigit (n : ℕ) : UInt8 := UInt8.ofNat (if n < 10 then 48 + n else 55 + n)

/-- `printf("%02X", byte)`. -/
def hexByte (byte : UInt8) : Bytes := [hexDigit (byte.toNat / 16), hexDigit (byte.toNat % 16)]

/-- The loop over the pairs of digits. -/
def hexPairs (data : Bytes) : Bytes :=
  (List.range (data.length / 2)).map fun i =>
    hex2bin (data.getD (i * 2) 0) (data.getD (i * 2 + 1) 0)

theorem ascii2bits_hexDigit : ∀ n < 16, ascii2bits (hexDigit n) = UInt8.ofNat n := by decide

theorem nibbles : ∀ h < 16, ∀ l < 16,
    ((UInt8.ofNat h <<< 4) &&& 0xF0) ||| (UInt8.ofNat l &&& 0x0F) = UInt8.ofNat (16 * h + l) := by
  decide

/-- Two digits are read back. -/
theorem hex2bin_hexByte (byte : UInt8) :
    hex2bin (hexDigit (byte.toNat / 16)) (hexDigit (byte.toNat % 16)) = byte := by
  have hbyte := byte.toNat_lt
  rw [hex2bin, ascii2bits_hexDigit _ (by omega), ascii2bits_hexDigit _ (by omega),
    nibbles _ (by omega) _ (by omega), Nat.div_add_mod, UInt8.ofNat_toNat]

theorem hexPairs_cons (a b : UInt8) (data : Bytes) :
    hexPairs (a :: b :: data) = hex2bin a b :: hexPairs data := by
  have hlen : (a :: b :: data).length / 2 = data.length / 2 + 1 := by
    rw [List.length_cons, List.length_cons]
    omega
  rw [hexPairs, hlen, List.range_succ_eq_map, List.map_cons, List.map_map]
  refine congrArg _ (List.map_congr_left fun i _ => ?_)
  have hnext : (i + 1) * 2 = i * 2 + 1 + 1 := by omega
  simp only [Function.comp, hnext, List.getD_cons_succ]

/-- **The digits of bytes are read back.** -/
theorem hexPairs_flatMap (data : Bytes) : hexPairs (data.flatMap hexByte) = data := by
  induction data with
  | nil => rfl
  | cons byte data ih =>
    rw [List.flatMap_cons, hexByte, List.cons_append, List.cons_append, List.nil_append,
      hexPairs_cons, hex2bin_hexByte, ih]

theorem length_flatMap_hexByte (data : Bytes) :
    (data.flatMap hexByte).length = 2 * data.length := by
  induction data with
  | nil => rfl
  | cons byte data ih =>
    rw [List.flatMap_cons, List.length_append, ih, List.length_cons, hexByte]
    simp only [List.length_cons, List.length_nil]
    omega

/-! ## The program -/

/-- The functions of `libcrypto`: a digest, and the data combined with a key. -/
structure Libcrypto where
  md5 : Bytes → Bytes
  rc4 : Bytes → Bytes → Bytes

/-- RC4 combines the data with a stream that depends on the key. -/
def Libcrypto.Xors (lib : Libcrypto) : Prop :=
  ∃ stream : Bytes → ℕ → UInt8, ∀ key data,
    lib.rc4 key data = data.mapIdx fun i byte => byte ^^^ stream key i

/-- What a run leaves. -/
structure Run where
  status : ℕ
  stdout : Bytes
  stderr : Bytes
  deriving DecidableEq

def exitSuccess : ℕ := 0
def exitFailure : ℕ := 1

/-- `op[0]`, a lower case letter taken for its upper case. -/
def operation (op : Bytes) : UInt8 :=
  let byte := op.headD 0
  if 97 ≤ byte.toInt8 then byte - 32 else byte

def opC : UInt8 := 67
def opD : UInt8 := 68

def newline : Bytes := [10]

/-- `main(argc, argv)`. What is printed of `data` ends with the first NUL, zeros being what the
array is filled with behind the text. -/
def main (lib : Libcrypto) (argv : List Bytes) : Run :=
  match argv with
  | argv₀ :: pwd :: op :: inp :: _ =>
    if operation op ≠ opC ∧ operation op ≠ opD then
      ⟨exitFailure, [], bytes "\n" ++ argv₀ ++ bytes ":\n Operacao invalida!\nValores aceitos:\n" ++
        bytes "<C>riptografa\n<D>ecritografa\n"⟩
    else if inp.length > 2048 then
      ⟨exitFailure, [], bytes "\n" ++ argv₀ ++
        bytes ":\nO tamanho maximo do bloco de dados e 2048 bytes!\n"⟩
    else if operation op = opD then
      ⟨exitSuccess, (lib.rc4 (lib.md5 pwd) (hexPairs inp)).takeWhile (· ≠ 0) ++ newline, []⟩
    else ⟨exitSuccess, (lib.rc4 (lib.md5 pwd) inp).flatMap hexByte ++ newline, []⟩
  | _ =>
    ⟨exitFailure, [], bytes "\n" ++ argv.headD [] ++
      bytes ":\nArgumentos insuficientes!\nSintaxe:\n" ++
      bytes "\t" ++ argv.headD [] ++ bytes " <senha> <operacao> <dados>\n"⟩

section Runs

variable {lib : Libcrypto} {argv₀ pwd op inp p : Bytes}

/-- Combining twice gives the data back. -/
theorem Libcrypto.Xors.rc4_rc4 (h : lib.Xors) (key data : Bytes) :
    lib.rc4 key (lib.rc4 key data) = data := by
  obtain ⟨stream, hrc4⟩ := h
  rw [hrc4, hrc4, List.mapIdx_mapIdx]
  refine List.ext_getElem (by simp) fun i hi _ => ?_
  rw [List.getElem_mapIdx]
  show data[i] ^^^ stream key i ^^^ stream key i = data[i]
  rw [UInt8.xor_assoc, UInt8.xor_self, UInt8.xor_zero]

theorem Libcrypto.Xors.length (h : lib.Xors) (key data : Bytes) :
    (lib.rc4 key data).length = data.length := by
  obtain ⟨stream, hrc4⟩ := h
  rw [hrc4, List.length_mapIdx]

/-- `C` writes the digits of the encrypted text, for a text within the limit. -/
theorem main_opC (hop : operation op = opC) : main lib [argv₀, pwd, op, inp] =
    if inp.length > 2048 then
      ⟨exitFailure, [], bytes "\n" ++ argv₀ ++
        bytes ":\nO tamanho maximo do bloco de dados e 2048 bytes!\n"⟩
    else ⟨exitSuccess, (lib.rc4 (lib.md5 pwd) inp).flatMap hexByte ++ newline, []⟩ := by
  have hne : opC ≠ opD := by decide
  rw [main, hop, if_neg fun h => h.1 rfl, if_neg hne]

/-- `D` reads digits, for a text within the same limit. -/
theorem main_opD (hop : operation op = opD) : main lib [argv₀, pwd, op, inp] =
    if inp.length > 2048 then
      ⟨exitFailure, [], bytes "\n" ++ argv₀ ++
        bytes ":\nO tamanho maximo do bloco de dados e 2048 bytes!\n"⟩
    else ⟨exitSuccess,
      (lib.rc4 (lib.md5 pwd) (hexPairs inp)).takeWhile (· ≠ 0) ++ newline, []⟩ := by
  rw [main, hop, if_neg fun h => h.2 rfl, if_pos rfl]

/-- What `C` prints of a text it accepts, without the newline, `D` accepts and prints the text. -/
def Inverts (lib : Libcrypto) (argv₀ pwd op op' p : Bytes) : Prop :=
  ∃ hex, main lib [argv₀, pwd, op, p] = ⟨exitSuccess, hex ++ newline, []⟩ ∧
    main lib [argv₀, pwd, op', hex] = ⟨exitSuccess, p ++ newline, []⟩

/-- A text of `p.length` bytes that `C` accepts is written with twice as many digits. -/
theorem main_of_accepted (hop : operation op = opC)
    (hok : (main lib [argv₀, pwd, op, p]).status = exitSuccess) :
    main lib [argv₀, pwd, op, p] =
      ⟨exitSuccess, (lib.rc4 (lib.md5 pwd) p).flatMap hexByte ++ newline, []⟩ := by
  rw [main_opC hop] at hok ⊢
  split at hok
  · cases hok
  · rename_i hlen
    exact if_neg hlen

/-- The digits of more than 1024 bytes are refused by `D`. -/
theorem not_inverts_of_long (h : lib.Xors) {op' : Bytes} (hop : operation op = opC)
    (hop' : operation op' = opD) (hlong : 1024 < p.length) :
    ¬ Inverts lib argv₀ pwd op op' p := by
  rintro ⟨hex, hC, hD⟩
  have hrun := main_of_accepted hop (congrArg Run.status hC)
  obtain rfl := List.append_cancel_right (congrArg Run.stdout (hC.symm.trans hrun))
  have hlen := length_flatMap_hexByte (lib.rc4 (lib.md5 pwd) p)
  rw [h.length] at hlen
  rw [main_opD hop', if_pos (by omega)] at hD
  cases hD

/-- The digits of up to 1024 bytes are read. -/
theorem inverts_of_short (h : lib.Xors) {op' : Bytes} (hop : operation op = opC)
    (hop' : operation op' = opD) (hp : 0 ∉ p) (hshort : p.length ≤ 1024) :
    Inverts lib argv₀ pwd op op' p := by
  have hlen := length_flatMap_hexByte (lib.rc4 (lib.md5 pwd) p)
  rw [h.length] at hlen
  have hall : p.takeWhile (· ≠ 0) = p := by
    rw [List.takeWhile_eq_self_iff]
    intro c hc
    rw [decide_eq_true_eq]
    rintro rfl
    exact hp hc
  refine ⟨_, (main_opC hop).trans (if_neg (by omega)), ?_⟩
  rw [main_opD hop', if_neg (by omega), hexPairs_flatMap, h.rc4_rc4, hall]

/-- **`D` undoes `C`** exactly for the texts of up to 1024 bytes. -/
theorem inverts_iff (h : lib.Xors) {op' : Bytes} (hop : operation op = opC)
    (hop' : operation op' = opD) (hp : 0 ∉ p) :
    Inverts lib argv₀ pwd op op' p ↔ p.length ≤ 1024 := by
  constructor
  · intro hinv
    by_contra hlong
    exact not_inverts_of_long h hop hop' (Nat.lt_of_not_le hlong) hinv
  · exact inverts_of_short h hop hop' hp

end Runs

/-! ## RC4 -/

/-- The state of RC4: a permutation of the bytes and two indices into it. -/
structure State where
  perm : UInt8 → UInt8
  i : UInt8
  j : UInt8

def swap (perm : UInt8 → UInt8) (i j : UInt8) : UInt8 → UInt8 :=
  fun x => if x = i then perm j else if x = j then perm i else perm x

/-- `RC4_set_key`. -/
def schedule (key : Bytes) : State :=
  let s := (List.range 256).foldl (fun (s : State) n =>
    let j := s.j + s.perm s.i + key.getD (n % key.length) 0
    ⟨swap s.perm s.i j, s.i + 1, j⟩) ⟨id, 0, 0⟩
  ⟨s.perm, 0, 0⟩

def next (s : State) : State :=
  let i := s.i + 1
  let j := s.j + s.perm i
  ⟨swap s.perm i j, i, j⟩

/-- The stream of a key. -/
def stream (key : Bytes) (n : ℕ) : UInt8 :=
  let s := next^[n + 1] (schedule key)
  s.perm (s.perm s.i + s.perm s.j)

/-- `libcrypto` with RC4, and with the MD5 digest of one password, `senha`. -/
def libcrypto : Libcrypto where
  md5 pwd := if pwd = bytes "senha" then
    [232, 217, 90, 81, 243, 175, 74, 59, 19, 75, 246, 187, 104, 10, 33, 58] else []
  rc4 key data := data.mapIdx fun i byte => byte ^^^ stream key i

theorem xors_libcrypto : libcrypto.Xors := ⟨stream, fun _ _ => rfl⟩

/-- A short text is printed back. -/
theorem inverts_senha : Inverts libcrypto (bytes "rc4_crypt") (bytes "senha") (bytes "c")
    (bytes "d") (bytes "ecf_settings") :=
  (inverts_iff xors_libcrypto rfl rfl (by decide)).2 (by decide)

/-- A text of 1025 bytes is accepted by `C`, and what `C` prints of it refused by `D`. -/
theorem not_inverts_1025 :
    (main libcrypto [bytes "rc4_crypt", bytes "senha", bytes "C", List.replicate 1025 97]).status =
        exitSuccess ∧
      ¬ Inverts libcrypto (bytes "rc4_crypt") (bytes "senha") (bytes "C") (bytes "D")
        (List.replicate 1025 97) := by
  constructor
  · rw [main_opC rfl, List.length_replicate]
    rfl
  · refine not_inverts_of_long xors_libcrypto rfl rfl ?_
    rw [List.length_replicate]
    omega

end Spooler.Rc4Crypt
