import Dhcp.Main
import Dhcp.Message.Text
import Dhcp.Proofs.Canonical
import Dhcp.Proofs.Correlation
import Dhcp.Proofs.Customising
import Dhcp.Proofs.Dispatch
import Dhcp.Proofs.Drain
import Dhcp.Proofs.DumpLines
import Dhcp.Proofs.Editing
import Dhcp.Proofs.Independence
import Dhcp.Proofs.Layout
import Dhcp.Proofs.LeaseExchange
import Dhcp.Proofs.LoopRuns
import Dhcp.Proofs.Names
import Dhcp.Proofs.OptionWire
import Dhcp.Proofs.Order
import Dhcp.Proofs.ReplyEcho
import Dhcp.Proofs.ReplyRun
import Dhcp.Proofs.Rivals
import Dhcp.Proofs.Routing
import Dhcp.Proofs.Session
import Dhcp.Proofs.StaticDecision
import Dhcp.Proofs.Truncation
import Dhcp.Proofs.Waiting
import Dhcp.Proofs.ServerNaming
