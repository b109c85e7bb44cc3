import ObliviousLog.Pad.Keystream
import ObliviousLog.Request.Share

/-!
# Recovering a bucket

The exclusive or of all domains' answers is the wanted bucket, because each domain's scan is linear.
Before the answers are combined, each domain's pad is taken off.
-/

namespace ObliviousLog

/-- Combines responses of one length by exclusive or. -/
def combineResponses : List Bytes → Except Error Bytes
  | [] => .error (.invalidConfiguration .noResponses)
  | first :: rest =>
    if rest.all fun response => response.length == first.length then
      .ok (rest.foldl Bytes.xor first)
    else
      .error (.invalidConfiguration .responseLength)

/-- Takes each domain's pad off its response and combines what is left. -/
def recoverBucket
    (C : Type)
    [BlockCipher C]
    (shares : List ReadShare)
    (responses : List Bytes) : Except Error Bytes :=
  if shares.length = responses.length then
    combineResponses
      (List.zipWith (fun share response => share.padSeed.apply C response) shares responses)
  else
    .error (.invalidConfiguration .responseCount)

end ObliviousLog
