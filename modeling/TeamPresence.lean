import TeamPresence.Main
import TeamPresence.Proofs.Directory.Moves
import TeamPresence.Proofs.Directory.Occupancy
import TeamPresence.Proofs.Directory.Userbase
import TeamPresence.Proofs.Program.Choosing
import TeamPresence.Proofs.Program.Conversation
import TeamPresence.Proofs.Program.Mirroring
import TeamPresence.Proofs.Program.Places
import TeamPresence.Proofs.Program.Serving
import TeamPresence.Proofs.Service.Consistency
import TeamPresence.Proofs.Service.Interleaving
import TeamPresence.Proofs.Service.Ledger
import TeamPresence.Proofs.Service.Redelivery
import TeamPresence.Proofs.Session.Attempts
import TeamPresence.Proofs.Session.Attunement
import TeamPresence.Proofs.Session.Company
import TeamPresence.Proofs.Session.Description
import TeamPresence.Proofs.Session.Enrolment
import TeamPresence.Proofs.Session.Hearing
import TeamPresence.Proofs.Session.Holdings
import TeamPresence.Proofs.Session.Identity
import TeamPresence.Proofs.Session.InStep
import TeamPresence.Proofs.Session.Leftovers
import TeamPresence.Proofs.Session.Runs
import TeamPresence.Proofs.Settings.Naming
import TeamPresence.Proofs.Settings.Usability
import TeamPresence.Proofs.Wire.Reading
import TeamPresence.Proofs.Wire.Rosters
