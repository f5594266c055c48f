import Kata.Binary64.Arith
import Kata.Binary64.Basic
import Kata.Binary64.Round
import Kata.Calendar.Absolute
import Kata.Calendar.Civil
import Kata.Calendar.Clean
import Kata.Calendar.Directive
import Kata.Calendar.Gloss
import Kata.Calendar.Instant
import Kata.Calendar.Language
import Kata.Calendar.Languages
import Kata.Calendar.Languages.Africa
import Kata.Calendar.Languages.Asia
import Kata.Calendar.Languages.Europe
import Kata.Calendar.Languages.Slavic
import Kata.Calendar.Moment
import Kata.Calendar.Reading
import Kata.Calendar.Render
import Kata.Calendar.Zones
import Kata.Decimal.Notation
import Kata.Decimal.Read
import Kata.Decimal.Shortest
import Kata.Drill.Collections
import Kata.Drill.Letters
import Kata.Drill.Numbers
import Kata.Fault
import Kata.Hash.Sha512
import Kata.Lesson.Resampling
import Kata.Lesson.Script
import Kata.Main
import Kata.Play.Games
import Kata.Prelude
import Kata.Proofs.Binary64Layout
import Kata.Proofs.Binary64Order
import Kata.Proofs.BlankRuns
import Kata.Proofs.Binary64Rounding
import Kata.Proofs.Capitals
import Kata.Proofs.CoinToss
import Kata.Proofs.CommonItems
import Kata.Proofs.DayCount
import Kata.Proofs.Draws
import Kata.Proofs.EvenProduct
import Kata.Proofs.ExactOrder
import Kata.Proofs.LetterTally
import Kata.Proofs.ListEdit
import Kata.Proofs.Lowering
import Kata.Proofs.MailDate
import Kata.Proofs.OrderMirror
import Kata.Proofs.PrintedTally
import Kata.Proofs.ReadBack
import Kata.Proofs.Sampling
import Kata.Proofs.TallyOrder
import Kata.Proofs.UpperImages
import Kata.Proofs.YearRange
import Kata.Random.Draw
import Kata.Random.Seed
import Kata.Random.Twister
import Kata.Tally
import Kata.Text.Case
import Kata.Text.Fields
import Kata.Text.Quote
import Kata.Unicode.Basic
import Kata.Unicode.Blank
import Kata.Unicode.Cased
import Kata.Unicode.Digit
import Kata.Unicode.Fold
import Kata.Unicode.Lowercase
import Kata.Unicode.Printable
import Kata.Unicode.Uppercase
import Kata.Unicode.Word
import Kata.Value.Access
import Kata.Value.Arith
import Kata.Value.Basic
import Kata.Value.Compare
import Kata.Value.Format
import Kata.Value.Text
