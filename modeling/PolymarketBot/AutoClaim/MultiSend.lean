import PolymarketBot.Lib.Packed

/-! The packed transactions that a batch redeem hands to the MultiSend contract. -/

namespace PolymarketBot.AutoClaim
open Lib

abbrev Address := Exactly 20 UInt8

/-- A `Vec` holds fewer than `2 ^ 63` bytes. -/
abbrev ByteVec := { bytes : List UInt8 // bytes.length < 2 ^ 63 }

def packTransaction (toAddress : Address) (data : ByteVec) : List UInt8 :=
  let lenBytes := List.replicate 24 0 ++ toBeBytes 8 data.1.length
  [0] ++ toAddress.1 ++ List.replicate 32 0 ++ lenBytes ++ data.1

def encodeMultisendTransactions (txs : List (Address × ByteVec)) : List UInt8 :=
  txs.foldl (fun packed tx => packed ++ packTransaction tx.1 tx.2) []

/-! ### The packed calls tell themselves apart -/

theorem packTransaction_delimited :
    Delimited (fun tx : Address × ByteVec => packTransaction tx.1 tx.2) := by
  have hbound : 2 ^ 63 ≤ 256 ^ 8 := by decide
  have hdata := (Delimited.counted hbound).after (List.replicate 32 0 ++ List.replicate 24 0)
  have htx := ((Delimited.exactly 20).pair hdata).after [0]
  intro tx tx' rest rest' heq
  apply htx tx tx' rest rest'
  simpa only [packTransaction, List.append_assoc] using heq

theorem packTransaction_ne_nil (toAddress : Address) (data : ByteVec) :
    packTransaction toAddress data ≠ [] := by
  simp [packTransaction]

theorem encodeMultisendTransactions_eq (txs : List (Address × ByteVec)) :
    encodeMultisendTransactions txs = txs.flatMap fun tx => packTransaction tx.1 tx.2 := by
  have hfold : ∀ (packed : List UInt8) (txs : List (Address × ByteVec)),
      txs.foldl (fun packed tx => packed ++ packTransaction tx.1 tx.2) packed =
        packed ++ txs.flatMap fun tx => packTransaction tx.1 tx.2 := by
    intro packed txs
    induction txs generalizing packed with
    | nil => exact (List.append_nil packed).symm
    | cons tx rest ih => rw [List.foldl_cons, ih, List.flatMap_cons, List.append_assoc]
  exact hfold [] txs

/-- The bytes of one batch begin with the bytes of another exactly when its calls begin with the
other's calls. -/
theorem encodeMultisendTransactions_prefix_iff (txs txs' : List (Address × ByteVec)) :
    encodeMultisendTransactions txs <+: encodeMultisendTransactions txs' ↔ txs <+: txs' := by
  rw [encodeMultisendTransactions_eq, encodeMultisendTransactions_eq]
  exact packTransaction_delimited.flatMap_prefix_iff fun tx => packTransaction_ne_nil tx.1 tx.2

end PolymarketBot.AutoClaim
