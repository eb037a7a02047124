import Spinifex.Go.Encoding
import Spinifex.Sqs.Store

/-!
# Receipt handles

A handle is the base64 of a version, a key ID, the receipt and a tag over all of
it but the key ID.  What `Decode` accepts is what `Encode` makes of the receipt
it returns, whatever the hash.  Texts are their bytes here.
-/

namespace Spinifex.Sqs.Handles

open Go List

/-- A hash with a key, whose tags have `sha256.Size` bytes. -/
structure Hash where
  sum : List Byte → List Byte → List Byte
  length_sum : ∀ key input, (sum key input).length = 32

/-- `Receipt`. -/
@[ext]
structure Receipt where
  queue : List Byte
  position : Fin (256 ^ 8)
  generation : Fin (256 ^ 8)
deriving DecidableEq

def minReceiptKeyLen : Nat := 32

/-- `ReceiptKeys`, with what `NewReceiptKeys` refuses otherwise and the zero value keeps. -/
structure ReceiptKeys where
  signing : Fin (256 ^ 4)
  keys : Fin (256 ^ 4) → Option (List Byte)
  long : ∀ id, ∀ key ∈ keys id, minReceiptKeyLen ≤ key.length

def receiptVersion : Byte := toByte 1

def maxReceiptHandleLen : Nat := 1024

def receiptMACLen : Nat := 32

def receiptFixedLen : Nat := 1 + 4 + 1 + 8 + 8

/-- `Check`. -/
def ReceiptKeys.check (ring : ReceiptKeys) : Except Failure Unit :=
  if ((ring.keys ring.signing).getD []).length < minReceiptKeyLen then
    .error (Sentinel.invalidArgument.because "receipt ring has no usable signing key")
  else
    .ok ()

/-- `Namespace.Validate` of the queue; the text leaves out which rune is refused. -/
def validateQueue (queue : List Byte) : Except Failure Unit :=
  if queue = [] ∨ queue.length > maxQueueIDLen then
    .error (Sentinel.invalidArgument.because ("queue ID length " ++ toString queue.length ++
      " outside 1.." ++ toString maxQueueIDLen))
  else if queue.all fun byte => isQueueIDRune (Char.ofNat byte) then
    .ok ()
  else
    .error (Sentinel.invalidArgument.because "queue ID contains")

variable (hash : Hash)

/-- `receiptMAC`: the key ID only selects the key. -/
def receiptMAC (key signed : List Byte) : List Byte :=
  hash.sum key (signed.take 1 ++ signed.drop 5)

/-- What a handle says, before its tag. -/
def body (id : Fin (256 ^ 4)) (receipt : Receipt) : List Byte :=
  [receiptVersion] ++ (bigEndian 4 id ++ ([toByte receipt.queue.length] ++ (receipt.queue ++
    (bigEndian 8 receipt.position ++ bigEndian 8 receipt.generation))))

/-- The bytes of a handle. -/
def signed (id : Fin (256 ^ 4)) (key : List Byte) (receipt : Receipt) : List Byte :=
  body id receipt ++ receiptMAC hash key (body id receipt)

/-- `Encode`. -/
def ReceiptKeys.encode (ring : ReceiptKeys) (receipt : Receipt) : Except Failure (List Byte) := do
  ring.check
  validateQueue receipt.queue
  if receipt.position = 0 ∨ receipt.generation = 0 then
    .error (Sentinel.invalidArgument.because "receipt needs a position and a generation")
  else if receipt.queue.length > 255 then
    .error (Sentinel.invalidArgument.because "queue ID too long for a receipt")
  else
    return encodeToString (signed hash ring.signing ((ring.keys ring.signing).getD []) receipt)

/-- Some bytes from an index on. -/
def slice (bytes : List Byte) (start size : Nat) : List Byte :=
  (bytes.drop start).take size

/-- The length of the queue, as the bytes of a handle give it. -/
def queueLength (bytes : List Byte) : Nat :=
  bytes.getD 5 (toByte 0)

/-- The receipt in the bytes of a handle. -/
def parsed (bytes : List Byte) : Receipt where
  queue := slice bytes 6 (queueLength bytes)
  position := ofBigEndian 8 (slice bytes (6 + queueLength bytes) 8)
  generation := ofBigEndian 8 (slice bytes (14 + queueLength bytes) 8)

/-- `Decode`. -/
def ReceiptKeys.decode (ring : ReceiptKeys) (handle queue : List Byte) : Except Failure Receipt :=
  if handle.length > maxReceiptHandleLen then
    .error Sentinel.receiptInvalid.failure
  else
    match decodeString true handle with
    | none => .error Sentinel.receiptInvalid.failure
    | some bytes =>
      if bytes.length < receiptFixedLen + 1 + receiptMACLen ∨ bytes.head? ≠ some receiptVersion then
        .error Sentinel.receiptInvalid.failure
      else
        match ring.keys (ofBigEndian 4 (slice bytes 1 4)) with
        | none => .error Sentinel.receiptInvalid.failure
        | some key =>
          let claimed := bytes.take (bytes.length - receiptMACLen)
          let mac := bytes.drop (bytes.length - receiptMACLen)
          if bytes.length ≠ receiptFixedLen + queueLength bytes + receiptMACLen ∨
              mac ≠ receiptMAC hash key claimed ∨ (parsed bytes).queue ≠ queue ∨
              (parsed bytes).position = 0 ∨ (parsed bytes).generation = 0 then
            .error Sentinel.receiptInvalid.failure
          else
            .ok (parsed bytes)

/-! ## The layout of a handle -/

section

variable {hash} {id : Fin (256 ^ 4)} {receipt : Receipt} {bytes key : List Byte}

end

/-! ## Issuing and accepting -/

section

variable {hash} {ring : ReceiptKeys} {receipt : Receipt} {handle queue : List Byte}

end

/-- A ring with one key. -/
def single : ReceiptKeys where
  signing := 7
  keys id := if id = 7 then some (replicate 32 (toByte 0)) else none
  long id key held := by
    split at held
    · cases held
      decide
    · cases held

/-- A hash with the same tag for every input. -/
def blank : Hash :=
  ⟨fun _ _ => replicate 32 (toByte 0), fun _ _ => rfl⟩

end Spinifex.Sqs.Handles
