import Std.Data.HashSet
import SearchRetrieve.Text.Blank

/-!
# Stop words

The words of nine languages that are too common to search for, in lower case.
-/
namespace SearchRetrieve.StopWords

abbrev WordSet := Std.HashSet String

def ofText (text : String) : WordSet := Std.HashSet.ofList (Text.words text)

def english : WordSet := ofText
  "'ll 'tis 'twas 've 10 39 a a's able ableabout about above abroad abst accordance according
    accordingly across act actually ad added adj adopted ae af affected affecting affects after
    afterwards ag again against ago ah ahead ai ain't aint al all allow allows almost alone
    along alongside already also although always am amid amidst among amongst amoungst amount an
    and announce another any anybody anyhow anymore anyone anything anyway anyways anywhere ao
    apart apparently appear appreciate appropriate approximately aq ar are area areas aren
    aren't arent arise around arpa as aside ask asked asking asks associated at au auth
    available aw away awfully az b ba back backed backing backs backward backwards bb bd be
    became because become becomes becoming been before beforehand began begin beginning
    beginnings begins behind being beings believe below beside besides best better between
    beyond bf bg bh bi big bill billion biol bj bm bn bo both bottom br brief briefly bs bt but
    buy bv bw by bz c c'mon c's ca call came can can't cannot cant caption case cases cause
    causes cc cd certain certainly cf cg ch changes ci ck cl clear clearly click cm cmon cn co
    co. com come comes computer con concerning consequently consider considering contain
    containing contains copy corresponding could could've couldn couldn't couldnt course cr cry
    cs cu currently cv cx cy cz d dare daren't darent date de dear definitely describe described
    despite detail did didn didn't didnt differ different differently directly dj dk dm do does
    doesn doesn't doesnt doing don don't done dont doubtful down downed downing downs downwards
    due during dz e each early ec ed edu ee effect eg eh eight eighty either eleven else
    elsewhere empty end ended ending ends enough entirely er es especially et et-al etc even
    evenly ever evermore every everybody everyone everything everywhere ex exactly example
    except f face faces fact facts fairly far farther felt few fewer ff fi fifteen fifth fifty
    fify fill find finds fire first five fix fj fk fm fo followed following follows for forever
    former formerly forth forty forward found four fr free from front full fully further
    furthered furthering furthermore furthers fx g ga gave gb gd ge general generally get gets
    getting gf gg gh gi give given gives giving gl gm gmt gn go goes going gone good goods got
    gotten gov gp gq gr great greater greatest greetings group grouped grouping groups gs gt gu
    gw gy h had hadn't hadnt half happens hardly has hasn hasn't hasnt have haven haven't havent
    having he he'd he'll he's hed hell hello help hence her here here's hereafter hereby herein
    heres hereupon hers herself herse” hes hi hid high higher highest him himself himse” his
    hither hk hm hn home homepage hopefully how how'd how'll how's howbeit however hr ht htm
    html http hu hundred i i'd i'll i'm i've i.e. id ie if ignored ii il ill im immediate
    immediately importance important in inasmuch inc inc. indeed index indicate indicated
    indicates information inner inside insofar instead int interest interested interesting
    interests into invention inward io iq ir is isn isn't isnt it it'd it'll it's itd itll its
    itself itse” ive j je jm jo join jp just k ke keep keeps kept keys kg kh ki kind km kn knew
    know known knows kp kr kw ky kz l la large largely last lately later latest latter latterly
    lb lc least length less lest let let's lets li like liked likely likewise line little lk ll
    long longer longest look looking looks low lower lr ls lt ltd lu lv ly m ma made mainly make
    makes making man many may maybe mayn't maynt mc md me mean means meantime meanwhile member
    members men merely mg mh microsoft might might've mightn't mightnt mil mill million mine
    minus miss mk ml mm mn mo more moreover most mostly move mp mq mr mrs ms msie mt mu much mug
    must must've mustn't mustnt mv mw mx my myself myse” mz n na name namely nay nc nd ne near
    nearly necessarily necessary need needed needing needn't neednt needs neither net netscape
    never neverf neverless nevertheless new newer newest next nf ng ni nine ninety nl no no-one
    nobody non none nonetheless noone nor normally nos not noted nothing notwithstanding novel
    now nowhere np nr nu null number numbers nz o obtain obtained obviously of off often oh ok
    okay old older oldest om omitted on once one one's ones only onto open opened opening opens
    opposite or ord order ordered ordering orders org other others otherwise ought oughtn't
    oughtnt our ours ourselves out outside over overall owing own p pa page pages part parted
    particular particularly parting parts past pe per perhaps pf pg ph pk pl place placed places
    please plus pm pmid pn point pointed pointing points poorly possible possibly potentially pp
    pr predominantly present presented presenting presents presumably previously primarily
    probably problem problems promptly proud provided provides pt put puts pw py q qa que
    quickly quite qv r ran rather rd re readily really reasonably recent recently ref refs
    regarding regardless regards related relatively research reserved respectively resulted
    resulting results right ring ro room rooms round ru run rw s sa said same saw say saying
    says sb sc sd se sec second secondly seconds section see seeing seem seemed seeming seems
    seen sees self selves sensible sent serious seriously seven seventy several sg sh shall
    shan't shant she she'd she'll she's shed shell shes should should've shouldn shouldn't
    shouldnt show showed showing shown showns shows si side sides significant significantly
    similar similarly since sincere site six sixty sj sk sl slightly sm small smaller smallest
    sn so some somebody someday somehow someone somethan something sometime sometimes somewhat
    somewhere soon sorry specifically specified specify specifying sr st state states still stop
    strongly su sub substantially successfully such sufficiently suggest sup sure sv sy system
    sz t t's take taken taking tc td tell ten tends test text tf tg th than thank thanks thanx
    that that'll that's that've thatll thats thatve the their theirs them themselves then thence
    there there'd there'll there're there's there've thereafter thereby thered therefore therein
    therell thereof therere theres thereto thereupon thereve these they they'd they'll they're
    they've theyd theyll theyre theyve thick thin thing things think thinks third thirty this
    thorough thoroughly those thou though thoughh thought thoughts thousand three throug through
    throughout thru thus til till tip tis tj tk tm tn to today together too took top toward
    towards tp tr tried tries trillion truly try trying ts tt turn turned turning turns tv tw
    twas twelve twenty twice two tz u ua ug uk um un under underneath undoing unfortunately
    unless unlike unlikely until unto up upon ups upwards us use used useful usefully usefulness
    uses using usually uucp uy uz v va value various vc ve versus very vg vi via viz vn vol vols
    vs vu w want wanted wanting wants was wasn wasn't wasnt way ways we we'd we'll we're we've
    web webpage website wed welcome well wells went were weren weren't werent weve wf what
    what'd what'll what's what've whatever whatll whats whatve when when'd when'll when's whence
    whenever where where'd where'll where's whereafter whereas whereby wherein wheres whereupon
    wherever whether which whichever while whilst whim whither who who'd who'll who's whod
    whoever whole wholl whom whomever whos whose why why'd why'll why's widely width will
    willing wish with within without won won't wonder wont words work worked working works world
    would would've wouldn wouldn't wouldnt ws www x y ye year years yes yet you you'd you'll
    you're you've youd youll young younger youngest your youre yours yourself yourselves youve
    yt yu z za zero zm zr"

def french : WordSet := ofText
  "a abord absolument afin ah ai aie aient aies ailleurs ainsi ait allaient allo allons allô
    alors anterieur anterieure anterieures apres après as assez attendu au aucun aucune aucuns
    aujourd aujourd'hui aupres auquel aura aurai auraient aurais aurait auras aurez auriez
    aurions aurons auront aussi autant autre autrefois autrement autres autrui aux auxquelles
    auxquels avaient avais avait avant avec avez aviez avions avoir avons ayant ayez ayons b bah
    bas basee bat beau beaucoup bien bigre bon boum bravo brrr c car ce ceci cela celle celle-ci
    celle-là celles celles-ci celles-là celui celui-ci celui-là celà cent cependant certain
    certaine certaines certains certes ces cet cette ceux ceux-ci ceux-là chacun chacune chaque
    cher chers chez chiche chut chère chères ci cinq cinquantaine cinquante cinquantième
    cinquième clac clic combien comme comment comparable comparables compris concernant contre
    couic crac d da dans de debout dedans dehors deja delà depuis dernier derniere derriere
    derrière des desormais desquelles desquels dessous dessus deux deuxième deuxièmement devant
    devers devra devrait different differentes differents différent différente différentes
    différents dire directe directement dit dite dits divers diverse diverses dix dix-huit
    dix-neuf dix-sept dixième doit doivent donc dont dos douze douzième dring droite du duquel
    durant dès début désormais e effet egale egalement egales eh elle elle-même elles
    elles-mêmes en encore enfin entre envers environ es essai est et etant etc etre eu eue eues
    euh eurent eus eusse eussent eusses eussiez eussions eut eux eux-mêmes exactement excepté
    extenso exterieur eûmes eût eûtes f fais faisaient faisant fait faites façon feront fi flac
    floc fois font force furent fus fusse fussent fusses fussiez fussions fut fûmes fût fûtes g
    gens h ha haut hein hem hep hi ho holà hop hormis hors hou houp hue hui huit huitième hum
    hurrah hé hélas i ici il ils importe j je jusqu jusque juste k l la laisser laquelle las le
    lequel les lesquelles lesquels leur leurs longtemps lors lorsque lui lui-meme lui-même là
    lès m ma maint maintenant mais malgre malgré maximale me meme memes merci mes mien mienne
    miennes miens mille mince mine minimale moi moi-meme moi-même moindres moins mon mot
    moyennant multiple multiples même mêmes n na naturel naturelle naturelles ne neanmoins
    necessaire necessairement neuf neuvième ni nombreuses nombreux nommés non nos notamment
    notre nous nous-mêmes nouveau nouveaux nul néanmoins nôtre nôtres o oh ohé ollé olé on ont
    onze onzième ore ou ouf ouias oust ouste outre ouvert ouverte ouverts o| où p paf pan par
    parce parfois parle parlent parler parmi parole parseme partant particulier particulière
    particulièrement pas passé pendant pense permet personne personnes peu peut peuvent peux pff
    pfft pfut pif pire pièce plein plouf plupart plus plusieurs plutôt possessif possessifs
    possible possibles pouah pour pourquoi pourrais pourrait pouvait prealable precisement
    premier première premièrement pres probable probante procedant proche près psitt pu puis
    puisque pur pure q qu quand quant quant-à-soi quanta quarante quatorze quatre quatre-vingt
    quatrième quatrièmement que quel quelconque quelle quelles quelqu'un quelque quelques quels
    qui quiconque quinze quoi quoique r rare rarement rares relative relativement remarquable
    rend rendre restant reste restent restrictif retour revoici revoilà rien s sa sacrebleu sait
    sans sapristi sauf se sein seize selon semblable semblaient semble semblent sent sept
    septième sera serai seraient serais serait seras serez seriez serions serons seront ses seul
    seule seulement si sien sienne siennes siens sinon six sixième soi soi-même soient sois soit
    soixante sommes son sont sous souvent soyez soyons specifique specifiques speculatif stop
    strictement subtiles suffisant suffisante suffit suis suit suivant suivante suivantes
    suivants suivre sujet superpose sur surtout t ta tac tandis tant tardive te tel telle
    tellement telles tels tenant tend tenir tente tes tic tien tienne tiennes tiens toc toi
    toi-même ton touchant toujours tous tout toute toutefois toutes treize trente tres trois
    troisième troisièmement trop très tsoin tsouin tu té u un une unes uniformement unique
    uniques uns v va vais valeur vas vers via vif vifs vingt vivat vive vives vlan voici voie
    voient voilà voire vont vos votre vous vous-mêmes vu vé vôtre vôtres w x y z zut à â ça ès
    étaient étais était étant état étiez étions été étée étées étés êtes être ô"

def german : WordSet := ofText
  "a ab aber ach acht achte achten achter achtes ag alle allein allem allen aller allerdings
    alles allgemeinen als also am an ander andere anderem anderen anderer anderes anderm andern
    anderr anders au auch auf aus ausser ausserdem außer außerdem b bald bei beide beiden beim
    beispiel bekannt bereits besonders besser besten bin bis bisher bist c d d.h da dabei
    dadurch dafür dagegen daher dahin dahinter damals damit danach daneben dank dann daran
    darauf daraus darf darfst darin darum darunter darüber das dasein daselbst dass dasselbe
    davon davor dazu dazwischen daß dein deine deinem deinen deiner deines dem dementsprechend
    demgegenüber demgemäss demgemäß demselben demzufolge den denen denn denselben der deren
    derer derjenige derjenigen dermassen dermaßen derselbe derselben des deshalb desselben
    dessen deswegen dich die diejenige diejenigen dies diese dieselbe dieselben diesem diesen
    dieser dieses dir doch dort drei drin dritte dritten dritter drittes du durch durchaus
    durfte durften dürfen dürft e eben ebenso ehrlich ei ei, eigen eigene eigenen eigener
    eigenes ein einander eine einem einen einer eines einig einige einigem einigen einiger
    einiges einmal eins elf en ende endlich entweder er ernst erst erste ersten erster erstes es
    etwa etwas euch euer eure eurem euren eurer eures f folgende früher fünf fünfte fünften
    fünfter fünftes für g gab ganz ganze ganzen ganzer ganzes gar gedurft gegen gegenüber gehabt
    gehen geht gekannt gekonnt gemacht gemocht gemusst genug gerade gern gesagt geschweige
    gewesen gewollt geworden gibt ging gleich gott gross grosse grossen grosser grosses groß
    große großen großer großes gut gute guter gutes h hab habe haben habt hast hat hatte hatten
    hattest hattet heisst her heute hier hin hinter hoch hätte hätten i ich ihm ihn ihnen ihr
    ihre ihrem ihren ihrer ihres im immer in indem infolgedessen ins irgend ist j ja jahr jahre
    jahren je jede jedem jeden jeder jedermann jedermanns jedes jedoch jemand jemandem jemanden
    jene jenem jenen jener jenes jetzt k kam kann kannst kaum kein keine keinem keinen keiner
    keines kleine kleinen kleiner kleines kommen kommt konnte konnten kurz können könnt könnte l
    lang lange leicht leide lieber los m machen macht machte mag magst mahn mal man manche
    manchem manchen mancher manches mann mehr mein meine meinem meinen meiner meines mensch
    menschen mich mir mit mittel mochte mochten morgen muss musst musste mussten muß mußt möchte
    mögen möglich mögt müssen müsst müßt n na nach nachdem nahm natürlich neben nein neue neuen
    neun neunte neunten neunter neuntes nicht nichts nie niemand niemandem niemanden noch nun
    nur o ob oben oder offen oft ohne ordnung p q r recht rechte rechten rechter rechtes richtig
    rund s sa sache sagt sagte sah satt schlecht schluss schon sechs sechste sechsten sechster
    sechstes sehr sei seid seien sein seine seinem seinen seiner seines seit seitdem selbst sich
    sie sieben siebente siebenten siebenter siebentes sind so solang solche solchem solchen
    solcher solches soll sollen sollst sollt sollte sollten sondern sonst soweit sowie später
    startseite statt steht suche t tag tage tagen tat teil tel tritt trotzdem tun u uhr um und
    uns unse unsem unsen unser unsere unserer unses unter v vergangenen viel viele vielem vielen
    vielleicht vier vierte vierten vierter viertes vom von vor w wahr wann war waren warst wart
    warum was weg wegen weil weit weiter weitere weiteren weiteres welche welchem welchen
    welcher welches wem wen wenig wenige weniger weniges wenigstens wenn wer werde werden werdet
    weshalb wessen wie wieder wieso will willst wir wird wirklich wirst wissen wo woher wohin
    wohl wollen wollt wollte wollten worden wurde wurden während währenddem währenddessen wäre
    würde würden x y z z.b zehn zehnte zehnten zehnter zehntes zeit zu zuerst zugleich zum
    zunächst zur zurück zusammen zwanzig zwar zwei zweite zweiten zweiter zweites zwischen zwölf
    über überhaupt übrigens"

def spanish : WordSet := ofText
  "0 1 2 3 4 5 6 7 8 9 _ a actualmente acuerdo adelante ademas además adrede afirmó agregó ahi
    ahora ahí al algo alguna algunas alguno algunos algún alli allí alrededor ambos ampleamos
    antano antaño ante anterior antes apenas aproximadamente aquel aquella aquellas aquello
    aquellos aqui aquél aquélla aquéllas aquéllos aquí arriba arribaabajo aseguró asi así atras
    aun aunque ayer añadió aún b bajo bastante bien breve buen buena buenas bueno buenos c cada
    casi cerca cierta ciertas cierto ciertos cinco claro comentó como con conmigo conocer
    conseguimos conseguir considera consideró consigo consigue consiguen consigues contigo
    contra cosas creo cual cuales cualquier cuando cuanta cuantas cuanto cuantos cuatro cuenta
    cuál cuáles cuándo cuánta cuántas cuánto cuántos cómo d da dado dan dar de debajo debe deben
    debido decir dejó del delante demasiado demás dentro deprisa desde despacio despues después
    detras detrás dia dias dice dicen dicho dieron diferente diferentes dijeron dijo dio donde
    dos durante día días dónde e ejemplo el ella ellas ello ellos embargo empleais emplean
    emplear empleas empleo en encima encuentra enfrente enseguida entonces entre era erais
    eramos eran eras eres es esa esas ese eso esos esta estaba estabais estaban estabas estad
    estada estadas estado estados estais estamos estan estando estar estaremos estará estarán
    estarás estaré estaréis estaría estaríais estaríamos estarían estarías estas este estemos
    esto estos estoy estuve estuviera estuvierais estuvieran estuvieras estuvieron estuviese
    estuvieseis estuviesen estuvieses estuvimos estuviste estuvisteis estuviéramos estuviésemos
    estuvo está estábamos estáis están estás esté estéis estén estés ex excepto existe existen
    explicó expresó f fin final fue fuera fuerais fueran fueras fueron fuese fueseis fuesen
    fueses fui fuimos fuiste fuisteis fuéramos fuésemos g general gran grandes gueno h ha haber
    habia habida habidas habido habidos habiendo habla hablan habremos habrá habrán habrás habré
    habréis habría habríais habríamos habrían habrías habéis había habíais habíamos habían
    habías hace haceis hacemos hacen hacer hacerlo haces hacia haciendo hago han has hasta hay
    haya hayamos hayan hayas hayáis he hecho hemos hicieron hizo horas hoy hube hubiera
    hubierais hubieran hubieras hubieron hubiese hubieseis hubiesen hubieses hubimos hubiste
    hubisteis hubiéramos hubiésemos hubo i igual incluso indicó informo informó intenta
    intentais intentamos intentan intentar intentas intento ir j junto k l la lado largo las le
    lejos les llegó lleva llevar lo los luego lugar m mal manera manifestó mas mayor me mediante
    medio mejor mencionó menos menudo mi mia mias mientras mio mios mis misma mismas mismo
    mismos modo momento mucha muchas mucho muchos muy más mí mía mías mío míos n nada nadie ni
    ninguna ningunas ninguno ningunos ningún no nos nosotras nosotros nuestra nuestras nuestro
    nuestros nueva nuevas nuevo nuevos nunca o ocho os otra otras otro otros p pais para parece
    parte partir pasada pasado paìs peor pero pesar poca pocas poco pocos podeis podemos poder
    podria podriais podriamos podrian podrias podrá podrán podría podrían poner por porque
    posible primer primera primero primeros principalmente pronto propia propias propio propios
    proximo próximo próximos pudo pueda puede pueden puedo pues q qeu que quedó queremos quien
    quienes quiere quiza quizas quizá quizás quién quiénes qué r raras realizado realizar
    realizó repente respecto s sabe sabeis sabemos saben saber sabes sal salvo se sea seamos
    sean seas segun segunda segundo según seis ser sera seremos será serán serás seré seréis
    sería seríais seríamos serían serías seáis señaló si sido siempre siendo siete sigue
    siguiente sin sino sobre sois sola solamente solas solo solos somos son soy soyos su
    supuesto sus suya suyas suyo suyos sé sí sólo t tal tambien también tampoco tan tanto tarde
    te temprano tendremos tendrá tendrán tendrás tendré tendréis tendría tendríais tendríamos
    tendrían tendrías tened teneis tenemos tener tenga tengamos tengan tengas tengo tengáis
    tenida tenidas tenido tenidos teniendo tenéis tenía teníais teníamos tenían tenías tercera
    ti tiempo tiene tienen tienes toda todas todavia todavía todo todos total trabaja trabajais
    trabajamos trabajan trabajar trabajas trabajo tras trata través tres tu tus tuve tuviera
    tuvierais tuvieran tuvieras tuvieron tuviese tuvieseis tuviesen tuvieses tuvimos tuviste
    tuvisteis tuviéramos tuviésemos tuvo tuya tuyas tuyo tuyos tú u ultimo un una unas uno unos
    usa usais usamos usan usar usas uso usted ustedes v va vais valor vamos van varias varios
    vaya veces ver verdad verdadera verdadero vez vosotras vosotros voy vuestra vuestras vuestro
    vuestros w x y ya yo z él éramos ésa ésas ése ésos ésta éstas éste éstos última últimas
    último últimos"

def italian : WordSet := ofText
  "a abbastanza abbia abbiamo abbiano abbiate accidenti ad adesso affinché agl agli ahime ahimè
    ai al alcuna alcuni alcuno all alla alle allo allora altre altri altrimenti altro altrove
    altrui anche ancora anni anno ansa anticipo assai attesa attraverso avanti avemmo avendo
    avente aver avere averlo avesse avessero avessi avessimo aveste avesti avete aveva avevamo
    avevano avevate avevi avevo avrai avranno avrebbe avrebbero avrei avremmo avremo avreste
    avresti avrete avrà avrò avuta avute avuti avuto basta ben bene benissimo brava bravo buono
    c caso cento certa certe certi certo che chi chicchessia chiunque ci ciascuna ciascuno cima
    cinque cio cioe cioè circa citta città ciò co codesta codesti codesto cogli coi col colei
    coll coloro colui come cominci comprare comunque con concernente conclusione consecutivi
    consecutivo consiglio contro cortesia cos cosa cosi così cui d da dagl dagli dai dal dall
    dalla dalle dallo dappertutto davanti degl degli dei del dell della delle dello dentro detto
    deve devo di dice dietro dire dirimpetto diventa diventare diventato dopo doppio dov dove
    dovra dovrà dovunque due dunque durante e ebbe ebbero ebbi ecc ecco ed effettivamente egli
    ella entrambi eppure era erano eravamo eravate eri ero esempio esse essendo esser essere
    essi ex fa faccia facciamo facciano facciate faccio facemmo facendo facesse facessero
    facessi facessimo faceste facesti faceva facevamo facevano facevate facevi facevo fai fanno
    farai faranno fare farebbe farebbero farei faremmo faremo fareste faresti farete farà farò
    fatto favore fece fecero feci fin finalmente finche fine fino forse forza fosse fossero
    fossi fossimo foste fosti fra frattempo fu fui fummo fuori furono futuro generale gente gia
    giacche giorni giorno giu già gli gliela gliele glieli glielo gliene grande grazie gruppo ha
    haha hai hanno ho i ie ieri il improvviso in inc indietro infatti inoltre insieme intanto
    intorno invece io l la lasciato lato le lei li lo lontano loro lui lungo luogo là ma macche
    magari maggior mai male malgrado malissimo me medesimo mediante meglio meno mentre mesi
    mezzo mi mia mie miei mila miliardi milioni minimi mio modo molta molti moltissimo molto
    momento mondo ne negl negli nei nel nell nella nelle nello nemmeno neppure nessun nessuna
    nessuno niente no noi nome non nondimeno nonostante nonsia nostra nostre nostri nostro
    novanta nove nulla nuovi nuovo o od oggi ogni ognuna ognuno oltre oppure ora ore osi ossia
    ottanta otto paese parecchi parecchie parecchio parte partendo peccato peggio per perche
    perchè perché percio perciò perfino pero persino persone però piedi pieno piglia piu
    piuttosto più po pochissimo poco poi poiche possa possedere posteriore posto potrebbe
    preferibilmente presa press prima primo principalmente probabilmente promesso proprio puo
    pure purtroppo può qua qualche qualcosa qualcuna qualcuno quale quali qualunque quando
    quanta quante quanti quanto quantunque quarto quasi quattro quel quella quelle quelli quello
    quest questa queste questi questo qui quindi quinto realmente recente recentemente
    registrazione relativo riecco rispetto salvo sara sarai saranno sarebbe sarebbero sarei
    saremmo saremo sareste saresti sarete sarà sarò scola scopo scorso se secondo seguente
    seguito sei sembra sembrare sembrato sembrava sembri sempre senza sette si sia siamo siano
    siate siete sig solito solo soltanto sono sopra soprattutto sotto spesso sta stai stando
    stanno starai staranno starebbe starebbero starei staremmo staremo stareste staresti starete
    starà starò stata state stati stato stava stavamo stavano stavate stavi stavo stemmo stessa
    stesse stessero stessi stessimo stesso steste stesti stette stettero stetti stia stiamo
    stiano stiate sto su sua subito successivamente successivo sue sugl sugli sui sul sull sulla
    sulle sullo suo suoi tale tali talvolta tanto te tempo terzo th ti titolo tra tranne tre
    trenta triplo troppo trovato tu tua tue tuo tuoi tutta tuttavia tutte tutti tutto uguali
    ulteriore ultimo un una uno uomo va vai vale vari varia varie vario verso vi vicino visto
    vita voi volta volte vostra vostre vostri vostro è"

def portuguese : WordSet := ofText
  "a acerca adeus agora ainda alem algmas algo algumas alguns ali além ambas ambos ano anos
    antes ao aonde aos apenas apoio apontar apos após aquela aquelas aquele aqueles aqui aquilo
    as assim através atrás até aí baixo bastante bem boa boas bom bons breve cada caminho
    catorze cedo cento certamente certeza cima cinco coisa com como comprido conhecido conselho
    contra contudo corrente cuja cujas cujo cujos custa cá da daquela daquelas daquele daqueles
    dar das de debaixo dela delas dele deles demais dentro depois desde desligado dessa dessas
    desse desses desta destas deste destes deve devem deverá dez dezanove dezasseis dezassete
    dezoito dia diante direita dispoe dispoem diversa diversas diversos diz dizem dizer do dois
    dos doze duas durante dá dão dúvida e ela elas ele eles em embora enquanto entao entre então
    era eram essa essas esse esses esta estado estamos estar estará estas estava estavam este
    esteja estejam estejamos estes esteve estive estivemos estiver estivera estiveram estiverem
    estivermos estivesse estivessem estiveste estivestes estivéramos estivéssemos estou está
    estás estávamos estão eu exemplo falta fará favor faz fazeis fazem fazemos fazer fazes fazia
    faço fez fim final foi fomos for fora foram forem forma formos fosse fossem foste fostes fui
    fôramos fôssemos geral grande grandes grupo ha haja hajam hajamos havemos havia hei hoje
    hora horas houve houvemos houver houvera houveram houverei houverem houveremos houveria
    houveriam houvermos houverá houverão houveríamos houvesse houvessem houvéramos houvéssemos
    há hão iniciar inicio ir irá isso ista iste isto já lado lhe lhes ligado local logo longe
    lugar lá maior maioria maiorias mais mal mas me mediante meio menor menos meses mesma mesmas
    mesmo mesmos meu meus mil minha minhas momento muito muitos máximo mês na nada nao naquela
    naquelas naquele naqueles nas nem nenhuma nessa nessas nesse nesses nesta nestas neste
    nestes no noite nome nos nossa nossas nosso nossos nova novas nove novo novos num numa numas
    nunca nuns não nível nós número o obra obrigada obrigado oitava oitavo oito onde ontem onze
    os ou outra outras outro outros para parece parte partir paucas pegar pela pelas pelo pelos
    perante perto pessoas pode podem poder poderá podia pois ponto pontos por porque porquê
    portanto posição possivelmente posso possível pouca pouco poucos povo primeira primeiras
    primeiro primeiros promeiro propios proprio própria próprias próprio próprios próxima
    próximas próximo próximos puderam pôde põe põem quais qual qualquer quando quanto quarta
    quarto quatro que quem quer quereis querem queremas queres quero questão quieto quinta
    quinto quinze quáis quê relação sabe sabem saber se segunda segundo sei seis seja sejam
    sejamos sem sempre sendo ser serei seremos seria seriam será serão seríamos sete seu seus
    sexta sexto sim sistema sob sobre sois somente somos sou sua suas são sétima sétimo só tal
    talvez tambem também tanta tantas tanto tarde te tem temos tempo tendes tenha tenham
    tenhamos tenho tens tentar tentaram tente tentei ter terceira terceiro terei teremos teria
    teriam terá terão teríamos teu teus teve tinha tinham tipo tive tivemos tiver tivera tiveram
    tiverem tivermos tivesse tivessem tiveste tivestes tivéramos tivéssemos toda todas todo
    todos trabalhar trabalho treze três tu tua tuas tudo tão tém têm tínhamos um uma umas uns
    usa usar vai vais valor veja vem vens ver verdade verdadeiro vez vezes viagem vindo vinte
    você vocês vos vossa vossas vosso vossos vários vão vêm vós zero à às área é éramos és
    último"

def dutch : WordSet := ofText
  "aan aangaande aangezien achte achter achterna af afgelopen al aldaar aldus alhoewel alias
    alle allebei alleen alles als alsnog altijd altoos ander andere anders anderszins beetje
    behalve behoudens beide beiden ben beneden bent bepaald betreffende bij bijna bijv binnen
    binnenin blijkbaar blijken boven bovenal bovendien bovengenoemd bovenstaand bovenvermeld
    buiten bv daar daardoor daarheen daarin daarna daarnet daarom daarop daaruit daarvanlangs
    dan dat de deden deed der derde derhalve dertig deze dhr die dikwijls dit doch doe doen doet
    door doorgaand drie duizend dus echter een eens eer eerdat eerder eerlang eerst eerste eigen
    eigenlijk elk elke en enig enige enigszins enkel er erdoor erg ergens etc etcetera even
    eveneens evenwel gauw ge gedurende geen gehad gekund geleden gelijk gemoeten gemogen genoeg
    geweest gewoon gewoonweg haar haarzelf had hadden hare heb hebben hebt hedden heeft heel hem
    hemzelf hen het hetzelfde hier hierbeneden hierboven hierin hierna hierom hij hijzelf hoe
    hoewel honderd hun hunne ieder iedere iedereen iemand iets ik ikzelf in inderdaad inmiddels
    intussen inzake is ja je jezelf jij jijzelf jou jouw jouwe juist jullie kan klaar kon konden
    krachtens kun kunnen kunt laatst later liever lijken lijkt maak maakt maakte maakten maar
    mag maken me meer meest meestal men met mevr mezelf mij mijn mijnent mijner mijzelf minder
    miss misschien missen mits mocht mochten moest moesten moet moeten mogen mr mrs mw na naar
    nadat nam namelijk nee neem negen nemen nergens net niemand niet niets niks noch nochtans
    nog nogal nooit nu nv of ofschoon om omdat omhoog omlaag omstreeks omtrent omver ondanks
    onder ondertussen ongeveer ons onszelf onze onzeker ooit ook op opnieuw opzij over overal
    overeind overige overigens paar pas per precies recent redelijk reeds rond rondom samen
    sedert sinds sindsdien slechts sommige spoedig steeds tamelijk te tegen tegenover tenzij
    terwijl thans tien tiende tijdens tja toch toe toen toenmaals toenmalig tot totdat tussen
    twee tweede u uit uitgezonderd uw vaak vaakwat van vanaf vandaan vanuit vanwege veel veeleer
    veertig verder verscheidene verschillende vervolgens via vier vierde vijf vijfde vijftig vol
    volgend volgens voor vooraf vooral vooralsnog voorbij voordat voordezen voordien voorheen
    voorop voorts vooruit vrij vroeg waar waarom waarschijnlijk wanneer want waren was wat we
    wederom weer weg wegens weinig wel weldra welk welke werd werden werder wezen whatever wie
    wiens wier wij wijzelf wil wilden willen word worden wordt zal ze zei zeker zelf zelfde
    zelfs zes zeven zich zichzelf zij zijn zijne zijzelf zo zoals zodat zodra zonder zou zouden
    zowat zulk zulke zullen zult"

def swedish : WordSet := ofText
  "aderton adertonde adjö aldrig alla allas allt alltid alltså andra andras annan annat artonde
    artonn att av bakom bara behöva behövas behövde behövt beslut beslutat beslutit bland blev
    bli blir blivit bort borta bra bäst bättre båda bådas dag dagar dagarna dagen de del delen
    dem den denna deras dess dessa det detta dig din dina dit ditt dock dom du där därför då e
    efter eftersom ej elfte eller elva emot en enkel enkelt enkla enligt ens er era ers ert ett
    ettusen fanns fem femte femtio femtionde femton femtonde fick fin finnas finns fjorton
    fjortonde fjärde fler flera flesta fram framför från fyra fyrtio fyrtionde få får fått
    följande för före förlåt förra första genast genom gick gjorde gjort god goda godare godast
    gott gälla gäller gällt gärna gå går gått gör göra ha hade haft han hans har heller hellre
    helst helt henne hennes hit hon honom hundra hundraen hundraett hur här hög höger högre
    högst i ibland icke idag igen igår imorgon in inför inga ingen ingenting inget innan inne
    inom inte inuti ja jag jo ju just jämfört kan kanske knappast kom komma kommer kommit kr
    kunde kunna kunnat kvar legat ligga ligger lika likställd likställda lilla lite liten litet
    länge längre längst lätt lättare lättast långsam långsammare långsammast långsamt långt låt
    man med mej mellan men mer mera mest mig min mina mindre minst mitt mittemot mot mycket
    många måste möjlig möjligen möjligt möjligtvis ned nederst nedersta nedre nej ner ni nio
    nionde nittio nittionde nitton nittonde nog noll nr nu nummer när nästa någon någonting
    något några nån nånting nåt nödvändig nödvändiga nödvändigt nödvändigtvis och också ofta
    oftast olika olikt om oss på rakt redan rätt sa sade sagt samma sedan senare senast sent sex
    sextio sextionde sexton sextonde sig sin sina sist sista siste sitt sitta sju sjunde sjuttio
    sjuttionde sjutton sjuttonde själv sjätte ska skall skulle slutligen små smått snart som
    stor stora stort större störst säga säger sämre sämst så sådan sådana sådant ta tack tar
    tidig tidigare tidigast tidigt till tills tillsammans tio tionde tjugo tjugoen tjugoett
    tjugonde tjugotre tjugotvå tjungo tolfte tolv tre tredje trettio trettionde tretton
    trettonde två tvåhundra under upp ur ursäkt ut utan utanför ute va vad var vara varför
    varifrån varit varje varken vars varsågod vart vem vems verkligen vi vid vidare viktig
    viktigare viktigast viktigt vilka vilkas vilken vilket vill väl vänster vänstra värre vår
    våra vårt än ännu är även åt åtminstone åtta åttio åttionde åttonde över övermorgon överst
    övre"

def russian : WordSet := ofText
  "c а алло без белый близко более больше большой будем будет будете будешь будто буду будут
    будь бы бывает бывь был была были было быть в важная важное важные важный вам вами вас ваш
    ваша ваше ваши вверх вдали вдруг ведь везде вернуться весь вечер взгляд взять вид видел
    видеть вместе вне вниз внизу во вода война вокруг вон вообще вопрос восемнадцатый
    восемнадцать восемь восьмой вот впрочем времени время все всегда всего всем всеми всему всех
    всею всю всюду вся всё второй вы выйти г где главный глаз говорил говорит говорить год года
    году голова голос город да давать давно даже далекий далеко дальше даром дать два двадцатый
    двадцать две двенадцатый двенадцать дверь двух девятнадцатый девятнадцать девятый девять
    действительно дел делал делать делаю дело день деньги десятый десять для до довольно долго
    должен должно должный дом дорога друг другая другие других друго другое другой думать душа е
    его ее ей ему если есть еще ещё ею её ж ждать же жена женщина жизнь жить за занят занята
    занято заняты затем зато зачем здесь земля знать значит значить и иди идти из или им имеет
    имел именно иметь ими имя иногда их к каждая каждое каждые каждый кажется казаться как какая
    какой кем книга когда кого ком комната кому конец конечно которая которого которой которые
    который которых кроме кругом кто куда лежать лет ли лицо лишь лучше любить люди м маленький
    мало мать машина между меля менее меньше меня место миллионов мимо минута мир мира мне много
    многочисленная многочисленное многочисленные многочисленный мной мною мог могу могут мож
    может можно можхо мои мой мор москва мочь моя моё мы на наверху над надо назад наиболее
    найти наконец нам нами народ нас начала начать наш наша наше наши не него недавно недалеко
    нее ней некоторый нельзя нем немного нему непрерывно нередко несколько нет нею неё ни нибудь
    ниже низко никакой никогда никто никуда ним ними них ничего ничто но новый нога ночь ну
    нужно нужный нх о об оба обычно один одиннадцатый одиннадцать однажды однако одного одной
    оказаться окно около он она они оно опять особенно остаться от ответить отец откуда отовсюду
    отсюда очень первый перед писать плечо по под подойди подумать пожалуйста позже пойти пока
    пол получить помнить понимать понять пор пора после последний посмотреть посреди потом
    потому почему почти правда прекрасно при про просто против процентов путь пятнадцатый
    пятнадцать пятый пять работа работать раз разве рано раньше ребенок решить россия рука
    русский ряд рядом с сам сама сами самим самими самих само самого самой самом самому саму
    самый свет свое своего своей свои своих свой свою сделать сеаой себе себя сегодня седьмой
    сейчас семнадцатый семнадцать семь сидеть сила сих сказал сказала сказать сколько слишком
    слово случай смотреть сначала снова со собой собою советский совсем спасибо спросить сразу
    стал старый стать стол сторона стоять страна суть считать т та так такая также таки такие
    такое такой там твои твой твоя твоё те тебе тебя тем теми теперь тех то тобой тобою товарищ
    тогда того тоже только том тому тот тою третий три тринадцатый тринадцать ту туда тут ты
    тысяч у увидеть уж уже улица уметь утро хороший хорошо хотеть хоть хотя хочешь час часто
    часть чаще чего человек чем чему через четвертый четыре четырнадцатый четырнадцать что чтоб
    чтобы чуть шестнадцатый шестнадцать шестой шесть эта эти этим этими этих это этого этой этом
    этому этот эту я являюсь"

end SearchRetrieve.StopWords
