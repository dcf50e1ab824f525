import GridTalk.Csv
import GridTalk.Edit
import GridTalk.Expression.Value
import GridTalk.Grid
import GridTalk.Intent.Reading
import GridTalk.Json.Grid
import GridTalk.Log
import GridTalk.Phrase
import GridTalk.Server.State
import GridTalk.Session
import GridTalk.Proofs.Address.Numeration
import GridTalk.Proofs.Address.RoundTrip
import GridTalk.Proofs.Address.Spelling
import GridTalk.Proofs.Csv.RoundTrip
import GridTalk.Proofs.Decimal.Digits
import GridTalk.Proofs.Edit.Adjustment
import GridTalk.Proofs.Edit.Arithmetic
import GridTalk.Proofs.Edit.Commutation
import GridTalk.Proofs.Edit.Filling
import GridTalk.Proofs.Edit.Frame
import GridTalk.Proofs.Edit.Refilling
import GridTalk.Proofs.Edit.Setting
import GridTalk.Proofs.Edit.Unreadable
import GridTalk.Proofs.Expression.Addresses
import GridTalk.Proofs.Expression.Unambiguous
import GridTalk.Proofs.Grid.Change
import GridTalk.Proofs.Grid.InPlace
import GridTalk.Proofs.Grid.Normal
import GridTalk.Proofs.Intent.Amount
import GridTalk.Proofs.Intent.Classification
import GridTalk.Proofs.Intent.Heard
import GridTalk.Proofs.Intent.Sentence
import GridTalk.Proofs.Json.RoundTrip
import GridTalk.Proofs.LetterCase.Edit
import GridTalk.Proofs.LetterCase.Instruction
import GridTalk.Proofs.LetterCase.Phrase
import GridTalk.Proofs.LetterCase.Text
import GridTalk.Proofs.Phrase.Greedy
import GridTalk.Proofs.Phrase.Search
import GridTalk.Proofs.Phrase.Spelling
import GridTalk.Proofs.Server.Download
import GridTalk.Proofs.Server.Isolation
import GridTalk.Proofs.Server.Ledger
import GridTalk.Proofs.Server.Rejection
import GridTalk.Proofs.Session.Finite
import GridTalk.Proofs.Session.Growth
import GridTalk.Proofs.Session.Replay
import GridTalk.Proofs.Session.Writing
import GridTalk.Proofs.Text.Lower
import GridTalk.Proofs.Text.Title
import GridTalk.Proofs.Text.Words
import GridTalk.Proofs.Word.Instruction
