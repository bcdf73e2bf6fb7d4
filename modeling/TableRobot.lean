import TableRobot.Main
import TableRobot.Proofs.Placement.Grammar
import TableRobot.Proofs.Interpreter.Reachable
import TableRobot.Proofs.Interpreter.Rejection
import TableRobot.Proofs.Numeral.Written
import TableRobot.Proofs.Text.CapitalForms
import TableRobot.Proofs.Board.FacingNames
import TableRobot.Proofs.Placement.Spelling
import TableRobot.Proofs.Command.Payload
import TableRobot.Proofs.Interpreter.Replay
import TableRobot.Proofs.Interpreter.Tidings
import TableRobot.Proofs.Command.SingleWord
import TableRobot.Proofs.Lexicon.Adoption
import TableRobot.Proofs.Interpreter.Keywords
import TableRobot.Proofs.Lexicon.Rivals
import TableRobot.Proofs.Lexicon.Operations
import TableRobot.Proofs.Lexicon.Conflicts
import TableRobot.Proofs.Lexicon.FirstWins
import TableRobot.Proofs.Interpreter.Isolation
import TableRobot.Proofs.Interpreter.TableSize
import TableRobot.Proofs.Interpreter.Respelling
import TableRobot.Proofs.Console.Decoding
import TableRobot.Proofs.Console.Loop
import TableRobot.Proofs.Console.Skipping
import TableRobot.Proofs.Console.Files
import TableRobot.Proofs.Console.JsonLines
import TableRobot.Proofs.Console.PlainLines
import TableRobot.Proofs.Interpreter.Displacement
import TableRobot.Proofs.Interpreter.Retracing
import TableRobot.Proofs.Interpreter.Spellings
import TableRobot.Proofs.Interpreter.WordsAndTexts
import TableRobot.Proofs.Interpreter.PlacementRule
import TableRobot.Proofs.Command.LifeCycle
