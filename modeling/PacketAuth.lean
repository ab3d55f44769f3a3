import PacketAuth.Json.Reader
import PacketAuth.Main
import PacketAuth.Proofs.WrittenText
import PacketAuth.Proofs.Outcomes
import PacketAuth.Proofs.Base64Codec
import PacketAuth.Proofs.NestedHash
import PacketAuth.Proofs.SignerLaws
import PacketAuth.Proofs.Forgery
import PacketAuth.Proofs.Streams
import PacketAuth.Proofs.PromptTranscript
import PacketAuth.Proofs.RequestLaws
import PacketAuth.Proofs.Acceptance
import PacketAuth.Proofs.Answers
import PacketAuth.Proofs.ReadText
import PacketAuth.Proofs.TypedRound
import PacketAuth.Proofs.DecimalText
import PacketAuth.Proofs.FirstDefect
import PacketAuth.Proofs.Runs
import PacketAuth.Proofs.KeyFloor
import PacketAuth.Proofs.DecodedText
import PacketAuth.Proofs.PolicyResolution
import PacketAuth.Proofs.KeyArguments
import PacketAuth.Proofs.KeySecrecy
import PacketAuth.Proofs.CounterMode
import PacketAuth.Proofs.ExitStatus
import PacketAuth.Proofs.NumberGrammar
import PacketAuth.Proofs.TagParts
import PacketAuth.Proofs.TextForms
import PacketAuth.Proofs.WrittenDecimal
import PacketAuth.Proofs.TomlLines
import PacketAuth.Proofs.PolicySection
import PacketAuth.Proofs.NumeralForms
import PacketAuth.Proofs.SurroundingBlanks
import PacketAuth.Proofs.LineEnds
import PacketAuth.Proofs.JsonText
import PacketAuth.Proofs.FaithfulReport
import PacketAuth.Proofs.LossyText
import PacketAuth.Proofs.ControlCharacters
import PacketAuth.Proofs.NameSpellings
import PacketAuth.Proofs.PrintedPolicy
import PacketAuth.Proofs.KeyGate
import PacketAuth.Proofs.ByteOrder
import PacketAuth.Proofs.PacketRun
import PacketAuth.Proofs.Sessions
import PacketAuth.Proofs.PolicyJson
import PacketAuth.Proofs.OptionOrder
